/-
**What the parameters of a query say.**

A parameter is left out when it says nothing, and words that belong together share one parameter,
with commas between them.  So it is the presence of a parameter that tells no parent from one with
an empty id, and no words from one empty word; and words are told apart as long as none of them
holds a comma.

Main definitions:

* `MediaTree.Query.Terms` — what a query says in words, with `Query.terms`;
* `MediaTree.Query.Terms.ofPairs`, `MediaTree.Query.Terms.read?` — the same, read from pairs and
  from the text of a form.

Main results:

* `MediaTree.Query.ofPairs_params` — **parameters say what the query says**;
* `MediaTree.Query.params_eq_nil_iff` — there are none only for the query that says nothing.
-/

import MediaTree.Catalog.Query
import MediaTree.Proofs.Text.Encoding

set_option autoImplicit false
set_option relaxedAutoImplicit false

namespace MediaTree

/-- Fields are told apart by their names. -/
theorem OnDemand.name_injective {f g : OnDemand} (h : f.name = g.name) : f = g := by
  cases f
  cases g
  rfl

namespace Query

/-! ### Terms -/

/-- What a query says in words. -/
structure Terms where
  recursive : Bool
  parent : Option String
  kinds : List String
  fields : List String
deriving DecidableEq, Repr

/-- What a query says. -/
def terms (q : Query) : Terms :=
  ⟨q.recursive, q.parent, q.kinds.map Named.word, q.fields.map OnDemand.name⟩

/-- Two queries say the same if they agree in everything but the meaning of words. -/
theorem terms_eq_iff {q q' : Query} :
    q.terms = q'.terms ↔ q.recursive = q'.recursive ∧ q.parent = q'.parent ∧
      q.kinds.map Named.word = q'.kinds.map Named.word ∧ q.fields = q'.fields := by
  have hfields : q.fields.map OnDemand.name = q'.fields.map OnDemand.name ↔
      q.fields = q'.fields :=
    List.map_inj_right fun _ _ => OnDemand.name_injective
  simp only [terms, Terms.mk.injEq, hfields]

/-- No word of a kind holds the separator of words. -/
def IsSeparable (q : Query) : Prop := ∀ k ∈ q.kinds, ',' ∉ k.word.toList

/-! ### Reading parameters -/

/-- The words that share a parameter; there are none if it is left out. -/
def wordsOf (name : String) (ps : List (String × String)) : List String :=
  ((ps.lookup name).map fun v => (Text.Form.splitAll ',' v.toList).map String.ofList).getD []

/-- What pairs say. -/
def Terms.ofPairs (ps : List (String × String)) : Terms where
  recursive := ps.contains ("Recursive", "true")
  parent := ps.lookup "ParentId"
  kinds := wordsOf "IncludeItemTypes" ps
  fields := wordsOf "Fields" ps

/-- What the text of a form says. -/
def Terms.read? (form : String) : Option Terms := (Text.Form.decodePairs? form).map Terms.ofPairs

/-- Joined words are found between the commas, also if they are empty. -/
theorem splitAll_words {words : List String} (hne : words ≠ [])
    (h : ∀ w ∈ words, ',' ∉ w.toList) :
    (Text.Form.splitAll ',' (",".intercalate words).toList).map String.ofList = words := by
  have hcomma : ",".toList = [','] := rfl
  rw [String.toList_intercalate, hcomma, Text.Form.splitAll_intercalate (by simpa using hne)]
  · simp
  · intro p hp
    obtain ⟨w, hw, rfl⟩ := List.mem_map.1 hp
    exact h w hw

/-- A shared parameter has no other name. -/
theorem lookup_listParam_of_ne {name other : String} (h : name ≠ other) (words : List String) :
    (listParam other words).lookup name = none := by
  unfold listParam
  split <;> simp [h]

/-- **Words are read back**, and none from a parameter that is left out. -/
theorem wordsOf_listParam (name : String) {words : List String}
    (h : ∀ w ∈ words, ',' ∉ w.toList) : wordsOf name (listParam name words) = words := by
  cases words with
  | nil => rfl
  | cons w words =>
      have hlookup : (listParam name (w :: words)).lookup name =
          some (",".intercalate (w :: words)) := by
        simp [listParam]
      rw [wordsOf, hlookup, Option.map_some, Option.getD_some,
        splitAll_words (List.cons_ne_nil w words) h]

/-- Each parameter of a query is found by its name. -/
theorem lookup_params (q : Query) :
    q.params.lookup "ParentId" = q.parent ∧
      q.params.lookup "IncludeItemTypes" =
        (listParam "IncludeItemTypes" (q.kinds.map Named.word)).lookup "IncludeItemTypes" ∧
      q.params.lookup "Fields" =
        (listParam "Fields" (q.fields.map OnDemand.name)).lookup "Fields" := by
  have hrecursive (name : String) (h : name ≠ "Recursive") :
      (if q.recursive then [("Recursive", "true")] else []).lookup name = none := by
    split <;> simp [h]
  have hparent (name : String) (h : name ≠ "ParentId") :
      (q.parent.map fun p => ("ParentId", p)).toList.lookup name = none := by
    cases q.parent <;> simp [h]
  have hself : (q.parent.map fun p => ("ParentId", p)).toList.lookup "ParentId" = q.parent := by
    cases q.parent <;> simp
  simp only [params, List.lookup_append]
  refine ⟨?_, ?_, ?_⟩
  · rw [hrecursive _ (by decide), hself, lookup_listParam_of_ne (by decide),
      lookup_listParam_of_ne (by decide)]
    simp
  · rw [hrecursive _ (by decide), hparent _ (by decide),
      lookup_listParam_of_ne (by decide : _ ≠ "Fields")]
    simp
  · rw [hrecursive _ (by decide), hparent _ (by decide),
      lookup_listParam_of_ne (by decide : _ ≠ "IncludeItemTypes")]
    simp

/-- The parameter for what lies deeper is there if that is asked for. -/
theorem contains_params (q : Query) :
    q.params.contains ("Recursive", "true") = q.recursive := by
  have hlist (name : String) (h : name ≠ "Recursive") (words : List String) :
      ("Recursive", "true") ∉ listParam name words := by
    unfold listParam
    split <;> simp [Ne.symm h]
  have hparent : ("Recursive", "true") ∉ (q.parent.map fun p => ("ParentId", p)).toList := by
    cases q.parent <;> simp
  rw [Bool.eq_iff_iff, List.contains_iff_mem]
  simp only [params, List.mem_append, hparent, hlist _ (by decide : "IncludeItemTypes" ≠ _),
    hlist _ (by decide : "Fields" ≠ _), or_false]
  cases q.recursive <;> simp

/-- **Parameters say what the query says.** -/
theorem ofPairs_params {q : Query} (h : q.IsSeparable) : Terms.ofPairs q.params = q.terms := by
  obtain ⟨hparent, hkinds, hfields⟩ := q.lookup_params
  have hkindWords : ∀ w ∈ q.kinds.map Named.word, ',' ∉ w.toList := List.forall_mem_map.2 h
  have hfieldWords : ∀ w ∈ q.fields.map OnDemand.name, ',' ∉ w.toList := by
    intro w hw
    obtain ⟨f, -, rfl⟩ := List.mem_map.1 hw
    cases f
    decide
  have hkindsRead : wordsOf "IncludeItemTypes" q.params = q.kinds.map Named.word := by
    rw [wordsOf, hkinds]
    exact wordsOf_listParam "IncludeItemTypes" hkindWords
  have hfieldsRead : wordsOf "Fields" q.params = q.fields.map OnDemand.name := by
    rw [wordsOf, hfields]
    exact wordsOf_listParam "Fields" hfieldWords
  rw [Terms.ofPairs, contains_params, hparent, hkindsRead, hfieldsRead, terms]

/-- **The form of a query is read back.** -/
theorem read?_encodePairs {q : Query} (h : q.IsSeparable) :
    Terms.read? (Text.Form.encodePairs q.params) = some q.terms := by
  rw [Terms.read?, Text.Form.decodePairs?_encodePairs, Option.map_some, ofPairs_params h]

/-- There are no parameters only for the query that asks for nothing in particular. -/
theorem params_eq_nil_iff {q : Query} : q.params = [] ↔ q = all := by
  obtain ⟨parent, kinds, recursive, fields⟩ := q
  have hlist (name : String) (words : List String) : listParam name words = [] ↔ words = [] := by
    cases words <;> simp [listParam]
  simp only [params, List.append_eq_nil_iff, hlist, List.map_eq_nil_iff, all, Query.mk.injEq]
  cases recursive <;> cases parent <;> simp

end Query

end MediaTree
