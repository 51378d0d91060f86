import ChangeFeed.Json.Writer
import ChangeFeed.Text.Quoted

/-!
# Outlines of JSON values

The text by which an error message shows a value: every part is named by its kind, and strings are
quoted so that nothing in them is invisible.
-/

namespace ChangeFeed.Json

mutual
/-- The outline of a value, which names the kind of each part of it. -/
def writeOutline : Json → List Char
  | .null => "Null".toList
  | .bool true => "Bool(true)".toList
  | .bool false => "Bool(false)".toList
  | .int n => "Number(".toList ++ writeInt n ++ [')']
  | .float x => "Number(".toList ++ writeFloat x ++ [')']
  | .str s => "String(".toList ++ (Text.quoted s).toList ++ [')']
  | .arr items => "Array [".toList ++ writeOutlineItems items ++ [']']
  | .obj members => "Object \x7b".toList ++ writeOutlineMembers members ++ ['\x7d']

/-- The outlines of the items of an array, with a comma and a blank between two of them. -/
def writeOutlineItems : List Json → List Char
  | [] => []
  | [v] => writeOutline v
  | v :: rest => writeOutline v ++ ',' :: ' ' :: writeOutlineItems rest

/-- The outlines of the members of an object, with a comma and a blank between two of them. -/
def writeOutlineMembers : List (String × Json) → List Char
  | [] => []
  | [(k, v)] => (Text.quoted k).toList ++ ':' :: ' ' :: writeOutline v
  | (k, v) :: rest =>
    (Text.quoted k).toList ++ ':' :: ' ' :: writeOutline v ++ ',' :: ' ' ::
      writeOutlineMembers rest
end

/-- The outline of the members of an object, between braces. -/
def outlineMap (members : List (String × Json)) : String :=
  String.ofList ('\x7b' :: writeOutlineMembers members ++ ['\x7d'])

end ChangeFeed.Json
