import VnfPayload.Text
import VnfPayload.Unicode.BinaryProperty
import VnfPayload.Unicode.Script

/-!
# Properties of characters

The sets that the escapes of one letter stand for, and the look-up of a property by its
name.
-/

namespace VnfPayload.Unicode

/-- White space, as text is trimmed of it. -/
def whiteSpace : CharSet :=
  CharSet.ofRanges Text.whiteSpaceRanges

/-- The decimal digits of all scripts. -/
def digits : CharSet :=
  ofCategories ["Nd"]

/-- The characters that join others without a sign of their own. -/
def joiners : CharSet :=
  CharSet.ofRange 0x200C 0x200D

/-- The characters of words: alphabetic ones, marks, digits, connectors and joiners. -/
def wordChars : CharSet :=
  BinaryProperty.alphabetic.chars.union
    ((ofCategories ["Mc", "Me", "Mn", "Nd", "Pc"]).union joiners)

/-- A name as it is looked up: in small letters, without spaces, underscores, hyphens and
anything outside ASCII, and without "is" in front. -/
def plainName (name : List Char) : String :=
  let small := name.map Char.toLower
  let (rest, dropped) := match small with
    | 'i' :: 's' :: rest => (rest, true)
    | rest => (rest, false)
  let kept := rest.filter fun c => c.toNat < 0x80 && c ≠ ' ' && c ≠ '_' && c ≠ '-'
  if dropped && kept = ['c'] then "isc" else String.ofList kept

/-- The characters with a property, a category or a script that is named alone. -/
def named? (name : String) : Option CharSet :=
  match BinaryProperty.ofName? name with
  | some p => some p.chars
  | none =>
      match category? name with
      | some s => some s
      | none => script? name

/-- The characters with a value of a property: a category or a script. -/
def valued? (property value : String) : Option CharSet :=
  if ["gc", "generalcategory"].contains property then category? value
  else if ["sc", "script", "scx", "scriptextensions"].contains property then script? value
  else none

end VnfPayload.Unicode
