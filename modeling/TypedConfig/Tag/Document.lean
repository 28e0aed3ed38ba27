import TypedConfig.Tag
import TypedConfig.Value.Basic

/-!
# Tags in documents

The parts of a tag as the members `key`, `default` and `splitter` of an object, or as the items of a
list in this order. The parts are taken as they are: a tag that is read from a document need not
have a written form that can be read back.
-/

namespace TypedConfig.Tag

/-- The object of a tag; absent parts have no member. -/
def document (tag : Tag) : Value :=
  let part (name : Text) (content : Option Text) : List (Text × Value) :=
    match content with
    | some text => [(name, .string text)]
    | none => []
  .ofMembers ([("key".toList, .string tag.key)] ++ part "default" tag.fallback
    ++ part "splitter" tag.splitter)

/-- A part that may be absent or null. -/
def partOfDocument? : Option Value → Option (Option Text)
  | none => some none
  | some .null => some none
  | some (.string text) => some (some text)
  | some _ => none

/-- The tag of three parts of a document. -/
def ofParts? (key fallback splitter : Option Value) : Option Tag :=
  match key, partOfDocument? fallback, partOfDocument? splitter with
  | some (.string key), some fallback, some splitter => some ⟨key, fallback, splitter⟩
  | _, _, _ => none

/-- The tag of a document. -/
def ofDocument? : Value → Option Tag
  | .object members =>
    let member (name : Text) : Option Value := Table.get? name members
    ofParts? (member "key") (member "default") (member "splitter")
  | .array items =>
    if 3 < items.length then none else ofParts? items[0]? items[1]? items[2]?
  | _ => none

end TypedConfig.Tag
