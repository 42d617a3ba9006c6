import Mathlib.Data.String.Basic
import Mathlib.Data.List.Basic
import Mathlib.Algebra.Order.BigOperators.Group.List
import Mathlib.Tactic.Common
import Mathlib.Tactic.IntervalCases

/-!
# JSON texts and their byte counts

A JSON value as a reader sees it, and the compact text a writer produces for
strings, numbers, arrays and objects.  Every text construction comes with the
number of UTF-8 bytes it takes, so that a size bound on a message becomes a sum
over its fields.
-/

namespace Gearwit

/-- A parsed JSON value; an object keeps its members in order. -/
inductive Json
  | null
  | bool (value : Bool)
  | number (text : String)
  | string (text : String)
  | array (items : List Json)
  | object (members : List (String × Json))

namespace Json

/-- Elements of an array. -/
def asArray : Json → Option (List Json)
  | .array items => some items
  | _ => none

/-- Text of a string. -/
def asStr : Json → Option String
  | .string text => some text
  | _ => none

/-- Member of an object. -/
def get (name : String) : Json → Option Json
  | .object members => (members.find? fun entry => entry.1 == name).map Prod.snd
  | _ => none

end Json

namespace JsonText

open String (utf8Len utf8Len_append utf8Len_cons utf8Len_nil)

/-! ## Strings -/

/-- Lowercase hexadecimal digit. -/
def hexDigit (digit : Nat) : Char := Nat.digitChar digit

/-- Text written for one scalar of a string: the two-character escapes, the
six-character escapes of the other control characters below the space, and the
scalar itself otherwise. -/
def escape (character : Char) : List Char :=
  if character = '"' then ['\\', '"']
  else if character = '\\' then ['\\', '\\']
  else if character.toNat = 0x08 then ['\\', 'b']
  else if character.toNat = 0x09 then ['\\', 't']
  else if character.toNat = 0x0A then ['\\', 'n']
  else if character.toNat = 0x0C then ['\\', 'f']
  else if character.toNat = 0x0D then ['\\', 'r']
  else if character.toNat < 0x20 then
    ['\\', 'u', '0', '0', hexDigit (character.toNat / 16), hexDigit (character.toNat % 16)]
  else [character]

/-- Bytes written for one scalar of a string. -/
def escapedBytes (character : Char) : Nat :=
  if character = '"' ∨ character = '\\' ∨ character.toNat = 0x08 ∨
      character.toNat = 0x09 ∨ character.toNat = 0x0A ∨ character.toNat = 0x0C ∨
      character.toNat = 0x0D then 2
  else if character.toNat < 0x20 then 6
  else character.utf8Size

private theorem utf8Size_hexDigit {digit : Nat} (bounded : digit < 16) :
    (hexDigit digit).utf8Size = 1 := by
  unfold hexDigit
  interval_cases digit <;> rfl

/-- An escape takes the bytes counted for its character. -/
theorem utf8Len_escape (character : Char) :
    utf8Len (escape character) = escapedBytes character := by
  unfold escape escapedBytes
  have quote : ('"' : Char).utf8Size = 1 := rfl
  have solidus : ('\\' : Char).utf8Size = 1 := rfl
  have letters : ('b' : Char).utf8Size = 1 ∧ ('t' : Char).utf8Size = 1 ∧
      ('n' : Char).utf8Size = 1 ∧ ('f' : Char).utf8Size = 1 ∧
      ('r' : Char).utf8Size = 1 ∧ ('u' : Char).utf8Size = 1 ∧
      ('0' : Char).utf8Size = 1 := ⟨rfl, rfl, rfl, rfl, rfl, rfl, rfl⟩
  split_ifs with first second third fourth fifth sixth seventh control <;>
    simp_all
  have high : (hexDigit (character.toNat / 16)).utf8Size = 1 :=
    utf8Size_hexDigit (by omega)
  have low : (hexDigit (character.toNat % 16)).utf8Size = 1 :=
    utf8Size_hexDigit (by omega)
  omega

/-- Text written for a string. -/
def string (text : String) : List Char :=
  '"' :: text.toList.flatMap escape ++ ['"']

/-- Bytes written for a string. -/
def stringBytes (text : String) : Nat :=
  2 + (text.toList.map escapedBytes).sum

private theorem utf8Len_flatMap_escape (characters : List Char) :
    utf8Len (characters.flatMap escape) = (characters.map escapedBytes).sum := by
  induction characters with
  | nil => rfl
  | cons character rest inductionHypothesis =>
      simp [utf8Len_escape, inductionHypothesis]

@[simp] theorem utf8Len_string (text : String) :
    utf8Len (string text) = stringBytes text := by
  have quote : ('"' : Char).utf8Size = 1 := rfl
  simp only [string, List.cons_append, utf8Len_cons, utf8Len_append,
    utf8Len_flatMap_escape, utf8Len_nil, quote, stringBytes]
  omega

/-! ## Numbers -/

/-- Text written for a natural number. -/
def nat (number : Nat) : List Char := Nat.toDigits 10 number

/-- Bytes written for a natural number. -/
def natBytes (number : Nat) : Nat := (Nat.toDigits 10 number).length

private theorem utf8Size_of_isDigit {character : Char} (digit : character.isDigit = true) :
    character.utf8Size = 1 := by
  unfold Char.isDigit at digit
  simp only [Bool.and_eq_true, decide_eq_true_eq] at digit
  have bounded : character.val ≤ 127 :=
    UInt32.le_trans digit.2 (by decide)
  unfold Char.utf8Size
  simp [bounded]

private theorem utf8Len_of_digits {characters : List Char}
    (digits : ∀ character ∈ characters, character.isDigit = true) :
    utf8Len characters = characters.length := by
  induction characters with
  | nil => rfl
  | cons character rest inductionHypothesis =>
      have single := utf8Size_of_isDigit (digits character (by simp))
      have others := inductionHypothesis fun other member =>
        digits other (by simp [member])
      simp [single, others]

@[simp] theorem utf8Len_nat (number : Nat) : utf8Len (nat number) = natBytes number :=
  utf8Len_of_digits fun _ member =>
    Nat.isDigit_of_mem_toDigits (by decide) (by decide) member

/-! ## Arrays and objects -/

/-- Texts separated by commas. -/
def separated : List (List Char) → List Char
  | [] => []
  | [item] => item
  | item :: next :: rest => item ++ ',' :: separated (next :: rest)

/-- Bytes of texts separated by commas. -/
theorem utf8Len_separated (items : List (List Char)) :
    utf8Len (separated items) + 1 =
      (items.map fun item => utf8Len item + 1).sum + (if items = [] then 1 else 0) := by
  induction items with
  | nil => rfl
  | cons item rest inductionHypothesis =>
      cases rest with
      | nil => simp [separated]
      | cons next others =>
          have comma : (',' : Char).utf8Size = 1 := rfl
          simp only [separated, utf8Len_append, utf8Len_cons, comma]
          simp only [reduceCtorEq, if_false, Nat.add_zero] at inductionHypothesis ⊢
          rw [List.map_cons, List.sum_cons, ← inductionHypothesis]
          omega

/-- Text written for an array. -/
def array (items : List (List Char)) : List Char :=
  '[' :: separated items ++ [']']

/-- Bytes written for an array with at least one item. -/
theorem utf8Len_array {items : List (List Char)} (nonempty : items ≠ []) :
    utf8Len (array items) = 1 + (items.map fun item => utf8Len item + 1).sum := by
  have inner := utf8Len_separated items
  have opening : ('[' : Char).utf8Size = 1 := rfl
  have closing : (']' : Char).utf8Size = 1 := rfl
  simp only [nonempty, if_false, Nat.add_zero] at inner
  simp only [array, List.cons_append, utf8Len_cons, utf8Len_append, utf8Len_nil,
    opening, closing]
  omega

/-- One member of an object: its name and the text of its value. -/
def member (name : String) (value : List Char) : List Char :=
  string name ++ ':' :: value

@[simp] theorem utf8Len_member (name : String) (value : List Char) :
    utf8Len (member name value) = stringBytes name + 1 + utf8Len value := by
  have colon : (':' : Char).utf8Size = 1 := rfl
  simp only [member, utf8Len_append, utf8Len_cons, utf8Len_string, colon]
  omega

/-- Text written for an object. -/
def object (members : List (List Char)) : List Char :=
  '{' :: separated members ++ ['}']

/-- Bytes written for an object with at least one member. -/
theorem utf8Len_object {members : List (List Char)} (nonempty : members ≠ []) :
    utf8Len (object members) = 1 + (members.map fun text => utf8Len text + 1).sum := by
  have inner := utf8Len_separated members
  have opening : ('{' : Char).utf8Size = 1 := rfl
  have closing : ('}' : Char).utf8Size = 1 := rfl
  simp only [nonempty, if_false, Nat.add_zero] at inner
  simp only [object, List.cons_append, utf8Len_cons, utf8Len_append, utf8Len_nil,
    opening, closing]
  omega

end JsonText
end Gearwit
