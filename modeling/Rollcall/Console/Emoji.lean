import Rollcall.Console.EmojiNames
import Rollcall.Text.Blank
import Rollcall.Text.Search
import Rollcall.Text.Small

/-!
# Emoji codes

A name between two colons stands for an emoji.  A name may end in `-text` or `-emoji`, which asks for a way of
presenting it.  A code that no emoji has is left as it is, both of its colons included, and the next code is looked for
behind it.
-/

namespace Rollcall.Console

/-- The emoji of a name, in letters of any case. -/
def emoji? (name : List Char) : Option (List Char) :=
  let name := Text.small name
  (emojiTable.find? fun entry => entry.1 == name).map (·.2)

/-- The endings of names and the selectors they ask for. -/
def presentations : List (List Char × Char) :=
  [("-emoji".toList, '\uFE0F'), ("-text".toList, '\uFE0E')]

/-- What stands for a code, given the text between its colons. -/
def codeMeaning? (code : List Char) : Option (List Char) :=
  match presentations.find? fun p => p.1.isSuffixOf code with
  | some (ending, selector) => (emoji? (code.take (code.length - ending.length))).map (· ++ [selector])
  | none => emoji? code

/-- The text between a colon and the next colon, if no blank stands in between. -/
def code? (cs : List Char) : Option (List Char) :=
  let code := cs.takeWhile fun c => c != ':' && !Text.isBlank c
  if (cs.drop code.length).head? = some ':' then some code else none

/-- Puts emoji in the place of their codes. -/
def replaceCodes (cs : List Char) : List Char :=
  match cs with
  | [] => []
  | c :: rest =>
    if c = ':' then
      match code? rest with
      | some code =>
        (codeMeaning? code).getD (':' :: (code ++ [':'])) ++ replaceCodes (rest.drop (code.length + 1))
      | none => c :: replaceCodes rest
    else c :: replaceCodes rest
termination_by cs.length
decreasing_by all_goals simp only [List.length_cons, List.length_drop]; omega

end Rollcall.Console
