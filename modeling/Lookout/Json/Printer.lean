/-
The text of a JSON document: compact, with the members of an object in their order.
-/
import Lookout.Json.Document
import Lookout.Json.Text

namespace Lookout
namespace JsonDocument

mutual

/-- The text of a document. -/
def text : JsonDocument → List Char
  | null => ['n', 'u', 'l', 'l']
  | bool b => if b then ['t', 'r', 'u', 'e'] else ['f', 'a', 'l', 's', 'e']
  | number n => n.text
  | string s => Json.quote s
  | array [] => ['[', ']']
  | array (item :: items) => '[' :: text item ++ itemsText items
  | object [] => ['{', '}']
  | object ((name, member) :: members) =>
    '{' :: Json.quote name ++ ':' :: text member ++ membersText members

/-- The items of an array after the first, each behind a comma, and the closing bracket. -/
def itemsText : List JsonDocument → List Char
  | [] => [']']
  | item :: items => ',' :: text item ++ itemsText items

/-- The members of an object after the first, each behind a comma, and the closing brace. -/
def membersText : List (String × JsonDocument) → List Char
  | [] => ['}']
  | (name, member) :: members =>
    ',' :: Json.quote name ++ ':' :: text member ++ membersText members

end

end JsonDocument
end Lookout
