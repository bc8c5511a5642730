/-
**Kinds of items.**

A server tells by a word what an item is, what a library collects and what a stream is.  A few words
have a meaning here; every other word is kept as it was sent, so that nothing is lost when the item
is written again.

Main definitions:

* `MediaTree.Vocabulary` — words with a meaning;
* `MediaTree.Named` — a word of a vocabulary, or any other word, with `word` and `ofWord`;
* `MediaTree.ItemKind`, `MediaTree.Collection`, `MediaTree.Medium` — the three vocabularies;
* `MediaTree.ItemKind.isPlayable`, `MediaTree.Named.isKnown`.

Main results:

* `MediaTree.Named.word_ofWord` — no word is lost;
* `MediaTree.Named.ofWord_word` — a meaning is found again by its word, unless it hides one;
* `MediaTree.Named.faithful_ofWord` — a word that was read hides no meaning.
-/

set_option autoImplicit false
set_option relaxedAutoImplicit false

namespace MediaTree

/-! ### Words -/

/-- Words that have a meaning. -/
class Vocabulary (κ : Type) where
  /-- All meanings. -/
  all : List κ
  /-- The word for a meaning. -/
  word : κ → String
  mem_all : ∀ k, k ∈ all
  word_injective : ∀ k l, word k = word l → k = l

/-- A word: one with a meaning, or any other. -/
inductive Named (κ : Type) where
  | known (k : κ)
  /-- A word without a meaning here. -/
  | other (word : String)
deriving DecidableEq, Repr, Inhabited

namespace Named

variable {κ : Type} [Vocabulary κ]

/-- The word itself. -/
def word : Named κ → String
  | known k => Vocabulary.word k
  | other s => s

/-- What a word means. -/
def ofWord (s : String) : Named κ :=
  match (Vocabulary.all : List κ).find? (Vocabulary.word · == s) with
  | some k => known k
  | none => other s

/-- The word has a meaning here. -/
def isKnown : Named κ → Bool
  | known _ => true
  | other _ => false

/-- Does not hide a word that has a meaning. -/
def Faithful : Named κ → Prop
  | known _ => True
  | other s => ∀ k : κ, Vocabulary.word k ≠ s

omit [Vocabulary κ] in
@[simp] theorem isKnown_known (k : κ) : (known k).isKnown = true := rfl

omit [Vocabulary κ] in
@[simp] theorem isKnown_other (s : String) : (other s : Named κ).isKnown = false := rfl

@[simp] theorem word_known (k : κ) : (known k).word = Vocabulary.word k := rfl

@[simp] theorem word_other (s : String) : (other s : Named κ).word = s := rfl

/-- No word is lost. -/
@[simp] theorem word_ofWord (s : String) : (ofWord s : Named κ).word = s := by
  unfold ofWord
  split
  · rename_i k h
    simpa using List.find?_some h
  · rfl

/-- A word that was read hides no meaning. -/
theorem faithful_ofWord (s : String) : (ofWord s : Named κ).Faithful := by
  unfold ofWord
  split
  · trivial
  · rename_i h
    intro k hk
    have := List.find?_eq_none.1 h k (Vocabulary.mem_all k)
    simp [hk] at this

/-- A meaning is found again by its word. -/
theorem ofWord_word {n : Named κ} (h : n.Faithful) : ofWord n.word = n := by
  cases n with
  | known k =>
    unfold ofWord
    split
    · rename_i l hl
      have := List.find?_some hl
      rw [Vocabulary.word_injective l k (by simpa using this)]
    · rename_i hl
      have := List.find?_eq_none.1 hl k (Vocabulary.mem_all k)
      simp at this
  | other s =>
    unfold ofWord
    split
    · rename_i l hl
      exact absurd (by simpa using List.find?_some hl) (h l)
    · rfl

end Named

/-! ### The three vocabularies -/

/-- What an item can be. -/
inductive ItemKind where
  /-- A top-level library. -/
  | library
  | artist
  | album
  | audio
  | series
  | season
  | episode
  | movie
deriving DecidableEq, Repr, Inhabited

/-- The word for a kind of item. -/
def ItemKind.word : ItemKind → String
  | library => "CollectionFolder"
  | artist => "MusicArtist"
  | album => "MusicAlbum"
  | audio => "Audio"
  | series => "Series"
  | season => "Season"
  | episode => "Episode"
  | movie => "Movie"

instance : Vocabulary ItemKind where
  all := [.library, .artist, .album, .audio, .series, .season, .episode, .movie]
  word := ItemKind.word
  mem_all k := by cases k <;> decide
  word_injective k l := by cases k <;> cases l <;> decide

/-- Leaves of the tree, which have a stream. -/
def ItemKind.isPlayable : ItemKind → Bool
  | audio | movie | episode => true
  | _ => false

/-- What a library can collect. -/
inductive Collection where
  | music
  | movies
  | tvShows
deriving DecidableEq, Repr, Inhabited

/-- The word for a collection. -/
def Collection.word : Collection → String
  | music => "music"
  | movies => "movies"
  | tvShows => "tvshows"

instance : Vocabulary Collection where
  all := [.music, .movies, .tvShows]
  word := Collection.word
  mem_all k := by cases k <;> decide
  word_injective k l := by cases k <;> cases l <;> decide

/-- What a stream can be. -/
inductive Medium where
  | audio
  | video
deriving DecidableEq, Repr, Inhabited

/-- The word for a medium. -/
def Medium.word : Medium → String
  | audio => "Audio"
  | video => "Video"

instance : Vocabulary Medium where
  all := [.audio, .video]
  word := Medium.word
  mem_all k := by cases k <;> decide
  word_injective k l := by cases k <;> cases l <;> decide

/-- An item that is a leaf of the tree. -/
def Named.isPlayable : Named ItemKind → Bool
  | .known k => k.isPlayable
  | .other _ => false

end MediaTree
