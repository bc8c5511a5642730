/-
**Octets and characters.**

A text travels as octets in UTF-8.  Writing is total: every character has its one to four octets.
Reading is not: octets may be damaged, and a reader that must go on past damage needs to know where
it is.  So reading yields one *unit* per character, and one empty unit per octet that starts no
character.  Damage never swallows what follows it: an octet below 128 is a character of its own
wherever it stands.

Main definitions:

* `MediaTree.Text.octets` — the octets of a text;
* `MediaTree.Text.units` — the characters found in octets, damage marked;
* `MediaTree.Text.ofOctets?` — the text that octets spell, if they are sound.
-/

set_option autoImplicit false
set_option relaxedAutoImplicit false

namespace MediaTree.Text

/-! ### Writing -/

/-- The octets of a text, character by character. -/
def octets (s : String) : List UInt8 := s.toList.flatMap String.utf8EncodeChar

@[simp] theorem octets_ofList_nil : octets (String.ofList []) = [] := rfl

theorem octets_ofList_cons (c : Char) (cs : List Char) :
    octets (String.ofList (c :: cs)) = String.utf8EncodeChar c ++ octets (String.ofList cs) := by
  simp [octets]

/-! ### Reading -/

/-- Reads on from octet `i`, with what was found so far in front. -/
def unitsFrom (bytes : ByteArray) (i : Nat) (found : Array (Option Char)) : Array (Option Char) :=
  if i < bytes.size then
    match bytes.utf8DecodeChar? i with
    | some c => unitsFrom bytes (i + c.utf8Size) (found.push (some c))
    | none => unitsFrom bytes (i + 1) (found.push none)
  else found
termination_by bytes.size - i
decreasing_by
  · have := Char.utf8Size_pos c
    omega
  · omega

/-- The characters that octets spell, in order; `none` stands for an octet that starts no
character. -/
def units (bytes : ByteArray) : List (Option Char) := (unitsFrom bytes 0 #[]).toList

/-- The text that octets spell, if each of them belongs to a character. -/
def ofOctets? (bs : List UInt8) : Option String := String.fromUTF8? bs.toByteArray

end MediaTree.Text
