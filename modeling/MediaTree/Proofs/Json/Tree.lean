/-
**Reading a text.**

The tokens of a text build the tree of what it says, whatever is open around it, so that a text is
read as its value, with nothing behind it.  None of the choices that were made in writing it is
left.

Main results:

* `MediaTree.Json.Builder.feed_tokens` — the tokens of a text build its tree;
* `MediaTree.Json.Document.ofBytes_bytes` — **a text is read as what it says**;
* `MediaTree.Json.decodeBytes_bytes` — a decoder gets the value that was written.
-/

import MediaTree.Json.Decoder
import MediaTree.Proofs.Json.Scan

set_option autoImplicit false
set_option relaxedAutoImplicit false

namespace MediaTree.Json

/-- No value begins with the end of an array. -/
theorem Phrase.tokens_eq_cons (p : Phrase) :
    ∃ t rest, p.tokens = t :: rest ∧ t ≠ .closeArray := by
  cases p <;> exact ⟨_, _, rfl, nofun⟩

namespace Builder

theorem settle_array (before : List Reading) (fs : List Frame) (r : Reading) :
    settle (.array before :: fs) r = .waiting .more (.array (r :: before) :: fs) := rfl

theorem settle_member (before : List (Reading × Reading)) (key : Reading) (fs : List Frame)
    (r : Reading) :
    settle (.member before key :: fs) r = .waiting .more (.object ((key, r) :: before) :: fs) :=
  rfl

theorem feed_closeArray (before : List Reading) (fs : List Frame) :
    feed (.waiting .more (.array before :: fs)) .closeArray =
      settle fs (.array before.reverse) := rfl

theorem feed_closeObject (before : List (Reading × Reading)) (fs : List Frame) :
    feed (.waiting .more (.object before :: fs)) .closeObject =
      settle fs (.object before.reverse) := rfl

/-- The first element is built as any value is. -/
theorem feed_firstElement (p : Phrase) (stack : List Frame) :
    p.tokens.foldl feed (.waiting .firstElement stack) =
      p.tokens.foldl feed (.waiting .value stack) := by
  obtain ⟨t, rest, htokens, ht⟩ := p.tokens_eq_cons
  rw [htokens, List.foldl_cons, List.foldl_cons]
  simp [feed, ht]

mutual

/-- **The tokens of a text build its tree**, whatever is open around it. -/
theorem feed_tokens : ∀ (p : Phrase) (stack : List Frame),
    p.tokens.foldl feed (.waiting .value stack) = settle stack p.reading
  | .null, _ | .bool _, _ | .number _, _ | .string _, _ => rfl
  | .emptyArray _, _ => rfl
  | .array ⟨_, v, _⟩ es, stack => by
      have hv := feed_tokens v (.array [] :: stack)
      -- the stack below stays as it is until the bracket is closed
      have hes := feed_elementTokens es [v.reading] stack
      have hopen : feed (.waiting .value stack) .openArray =
          .waiting .firstElement (.array [] :: stack) := rfl
      simp only [Phrase.tokens, List.cons_append, List.foldl_cons, List.foldl_append, hopen,
        feed_firstElement, hv, settle_array, hes, List.foldl_nil, feed_closeArray]
      simp [Phrase.reading]
  | .emptyObject _, _ => rfl
  | .object k ⟨_, v, _⟩ ms, stack => by
      have hv := feed_tokens v (.member [] (.string (Piece.text? k.content)) :: stack)
      have hms := feed_memberTokens ms [(.string (Piece.text? k.content), v.reading)] stack
      have hopen : feed (.waiting .value stack) .openObject =
          .waiting .firstKey (.object [] :: stack) := rfl
      have hkey (s : Option String) : feed (.waiting .firstKey (.object [] :: stack)) (.string s) =
          .waiting .colon (.member [] (.string s) :: stack) := rfl
      have hcolon (fs : List Frame) : feed (.waiting .colon fs) .colon = .waiting .value fs := rfl
      simp only [Phrase.tokens, List.cons_append, List.foldl_cons, List.foldl_append, hopen, hkey,
        hcolon, hv, settle_member, hms, List.foldl_nil, feed_closeObject]
      simp [Phrase.reading]

/-- The tokens of elements are added to the array that is open. -/
theorem feed_elementTokens : ∀ (es : List (Padded Phrase)) (before : List Reading)
    (stack : List Frame),
    (Phrase.elementTokens es).foldl feed (.waiting .more (.array before :: stack)) =
      .waiting .more (.array ((Phrase.elementReadings es).reverse ++ before) :: stack)
  | [], _, _ => rfl
  | ⟨_, v, _⟩ :: es, before, stack => by
      have hv := feed_tokens v (.array before :: stack)
      have hes := feed_elementTokens es (v.reading :: before) stack
      have hcomma : feed (.waiting .more (.array before :: stack)) .comma =
          .waiting .value (.array before :: stack) := rfl
      simp only [Phrase.elementTokens, List.cons_append, List.foldl_cons, List.foldl_append, hcomma,
        hv, settle_array, hes]
      simp [Phrase.elementReadings]

/-- The tokens of members are added to the object that is open. -/
theorem feed_memberTokens : ∀ (ms : List (Padded (List Piece) × Padded Phrase))
    (before : List (Reading × Reading)) (stack : List Frame),
    (Phrase.memberTokens ms).foldl feed (.waiting .more (.object before :: stack)) =
      .waiting .more (.object ((Phrase.memberReadings ms).reverse ++ before) :: stack)
  | [], _, _ => rfl
  | (k, ⟨_, v, _⟩) :: ms, before, stack => by
      have hv := feed_tokens v (.member before (.string (Piece.text? k.content)) :: stack)
      have hms :=
        feed_memberTokens ms ((.string (Piece.text? k.content), v.reading) :: before) stack
      have hcomma : feed (.waiting .more (.object before :: stack)) .comma =
          .waiting .key (.object before :: stack) := rfl
      have hkey (s : Option String) : feed (.waiting .key (.object before :: stack)) (.string s) =
          .waiting .colon (.member before (.string s) :: stack) := rfl
      have hcolon (fs : List Frame) : feed (.waiting .colon fs) .colon = .waiting .value fs := rfl
      simp only [Phrase.memberTokens, List.cons_append, List.foldl_cons, List.foldl_append, hcomma,
        hkey, hcolon, hv, settle_member, hms]
      simp [Phrase.memberReadings]

end

end Builder

/-- **A text is read as what it says**, with nothing behind it. -/
theorem Document.ofBytes_bytes (p : Padded Phrase) :
    Document.ofBytes p.bytes = ⟨p.content.reading, true⟩ := by
  rw [Document.ofBytes, Token.ofBytes_bytes, Document.ofTokens, Builder.start, Builder.feed_tokens]
  rfl

/-- A decoder that makes a value of what is said makes it of the text. -/
theorem decodeBytes_bytes {α : Type} {d : Decoder α} {p : Padded Phrase} {a : α}
    (h : d nestingLimit p.content.reading = .ok a) : decodeBytes d p.bytes = .ok a := by
  rw [decodeBytes, Document.ofBytes_bytes, Document.decode, h]
  rfl

end MediaTree.Json
