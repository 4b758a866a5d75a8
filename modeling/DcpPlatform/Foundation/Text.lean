import Mathlib.Algebra.GroupWithZero.Nat
import Mathlib.Data.List.DropRight

/-!
# Texts

Trimming and cutting as a JavaScript program and its database do it.
-/

namespace DcpPlatform.Foundation

open List

/-- Remove the blank characters at both ends of a text. -/
def strip (blank : Char → Bool) (text : String) : String :=
  String.ofList ((text.toList.dropWhile blank).reverse.dropWhile blank).reverse

/-- The characters that `String.prototype.trim` removes. -/
def isSpace (character : Char) : Bool :=
  [9, 10, 11, 12, 13, 32, 160, 0x1680, 0x2000, 0x2001, 0x2002, 0x2003,
    0x2004, 0x2005, 0x2006, 0x2007, 0x2008, 0x2009, 0x200a, 0x2028,
    0x2029, 0x202f, 0x205f, 0x3000, 0xfeff].contains character.toNat

def trim (text : String) : String :=
  strip isSpace text

section Strip

variable {blank : Char → Bool}

private theorem dropWhile_eq_self_of_prefix {front whole : List Char}
    (shorter : front <+: whole) (visible : whole.dropWhile blank = whole) :
    front.dropWhile blank = front := by
  cases front with
  | nil => rfl
  | cons first rest =>
    obtain ⟨back, same⟩ := shorter
    have clear : blank first = false := by
      rw [← same, cons_append, dropWhile_cons] at visible
      by_contra dropped
      rw [if_pos ((Bool.not_eq_false _).mp dropped)] at visible
      have short := (dropWhile_suffix blank
        (l := rest ++ back)).length_le
      rw [visible, length_cons] at short
      omega
    rw [dropWhile_cons, clear]
    rfl

theorem strip_strip (blank : Char → Bool) (text : String) :
    strip blank (strip blank text) = strip blank text := by
  have left : (text.toList.dropWhile blank).dropWhile blank = text.toList.dropWhile blank :=
    dropWhile_idempotent _ _
  have kept := dropWhile_eq_self_of_prefix (List.rdropWhile_prefix blank _) left
  have right := rdropWhile_idempotent blank (text.toList.dropWhile blank)
  unfold rdropWhile at kept right
  rw [strip, strip, String.toList_ofList, kept, right]

theorem strip_of_visible {text : String}
    (visible : ∀ character ∈ text.toList, blank character = false) :
    strip blank text = text := by
  have left : text.toList.dropWhile blank = text.toList := by
    cases content : text.toList with
    | nil => rfl
    | cons first rest =>
      have clear := visible first (by simp [content])
      rw [dropWhile_cons, clear]
      rfl
  have right : text.toList.reverse.dropWhile blank = text.toList.reverse := by
    cases content : text.toList.reverse with
    | nil => rfl
    | cons first rest =>
      have member : first ∈ text.toList.reverse := by simp [content]
      have clear := visible first (mem_reverse.mp member)
      rw [dropWhile_cons, clear]
      rfl
  rw [strip, left, right, reverse_reverse, String.ofList_toList]

end Strip

theorem trim_trim (text : String) : trim (trim text) = trim text :=
  strip_strip isSpace text

/-- `toLowerCase`, as far as the letters a to z are concerned: the Kelvin
sign is a k, and the capital I with a dot is an i with one. -/
def toLowerCase (text : String) : String :=
  String.ofList (text.toList.flatMap (fun character =>
    if character.toNat = 0x212a then ['k']
    else if character.toNat = 0x130 then ['i', Char.ofNat 0x307]
    else [character.toLower]))

/-- The `length` of a text counts its UTF-16 code units. -/
def utf16Length (text : String) : Nat :=
  (text.toList.map (fun character =>
    if character.toNat < 0x10000 then 1 else 2)).sum

/-- The code units that `String.prototype.charCodeAt` reads. -/
def utf16Units (text : String) : List Nat :=
  text.toList.flatMap (fun character =>
    if character.toNat < 0x10000 then
      [character.toNat]
    else
      [0xd800 + (character.toNat - 0x10000) / 0x400, 0xdc00 + (character.toNat - 0x10000) % 0x400])

/-- The `TRIM` of SQL removes spaces only. -/
def sqlTrim (text : String) : String :=
  strip (fun character => character = ' ') text

/-- The `LOWER` of SQL knows the letters A to Z only. -/
def sqlLower (text : String) : String :=
  String.ofList (text.toList.map Char.toLower)

def clip (limit : Nat) (text : String) : String :=
  String.ofList (text.toList.take limit)

/-- `normalizeString`: the trimmed text within its length, or nothing. -/
def normalizeString (maxLen : Nat) (value : String) : Option String :=
  let next := trim value
  if next = "" then none else some (clip maxLen next)

end DcpPlatform.Foundation
