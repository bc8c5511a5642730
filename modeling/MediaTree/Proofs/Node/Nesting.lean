/-
**Nodes survive their JSON, down to a depth.**

A node is written with everything below it, and a reader allows so many arrays and objects inside
each other and no more.  Each level of children takes two of them, one for the list and one for the
child; a last list takes one even if it is empty.  A node that fits is read as itself, whatever its
fields hold; a node that does not fit is damage to the reader, because everything in front of the
list that goes too deep is in order.

Main results:

* `MediaTree.Node.depth_toJson` — how deeply a node is nested;
* `MediaTree.Node.decodeLevels_reading` — reading a node with so many nestings allowed;
* `MediaTree.Node.texts_read_back` — **both layouts of a node are read as the node itself, exactly
  if it is nested at most 127 deep.**
-/

import MediaTree.Node.Codec
import MediaTree.Proofs.Json.Records

set_option autoImplicit false
set_option relaxedAutoImplicit false

namespace MediaTree

open Json (Decoder Problem Reading)

namespace Json

/-! ### Depth -/

theorem depthMembers_append (front back : List (String × Json)) :
    depthMembers (front ++ back) = max (depthMembers front) (depthMembers back) := by
  induction front with
  | nil => simp [depthMembers]
  | cons m front ih => simp [depthMembers, ih, Nat.max_assoc]

/-- A member without arrays and objects adds no depth. -/
theorem depthMembers_optional {α : Type} {enc : α → Json} (h : ∀ a, (enc a).depth = 0)
    (name : String) (o : Option α) : depthMembers (Json.optional name enc o) = 0 := by
  cases o with
  | none => rfl
  | some a => simp [depthMembers, h a]

theorem depth_nullable {α : Type} {enc : α → Json} (h : ∀ a, (enc a).depth = 0)
    (o : Option α) : (Json.nullable enc o).depth = 0 := by
  cases o with
  | none => rfl
  | some a => exact h a

end Json

namespace Node

@[simp] theorem toJsons_eq_map (ns : List Node) : toJsons ns = ns.map toJson := by
  induction ns with
  | nil => rfl
  | cons n ns ih => rw [toJsons, ih, List.map_cons]

/-! ### Members -/

/-- The members of a node, its children apart. -/
def ownMembers (n : Node) : List (String × Json) :=
  ("domain", .string n.domain) ::
  ("identifier", Json.nullable .string n.identifier) ::
  ("media_class", n.mediaClass.toJson) ::
  (Json.optional "media_content_type" .string n.contentType ++
  ("title", .string n.title) ::
  ("can_play", .bool n.canPlay) ::
  ("can_expand", .bool n.canExpand) ::
  (Json.optional "thumbnail" .string n.thumbnail ++
  Json.optional "children_media_class" MediaClass.toJson n.childrenClass))

theorem toJson_eq (n : Node) : n.toJson = .object (n.ownMembers ++ childrenMember n.children) := by
  obtain ⟨domain, identifier, mediaClass, contentType, title, canPlay, canExpand, thumbnail,
    childrenClass, children⟩ := n
  simp [toJson, ownMembers, Node.domain, Node.identifier, Node.mediaClass, Node.contentType,
    Node.title, Node.canPlay, Node.canExpand, Node.thumbnail, Node.childrenClass, Node.children]

/-- **How deeply a node is nested**: two more than what is below it, if it has a list of children,
and one if it has none. -/
theorem depth_toJson (n : Node) :
    n.toJson.depth =
      match n.children with
      | none => 1
      | some cs => Json.depthElements (cs.map toJson) + 2 := by
  have htext (name : String) (o : Option String) :
      Json.depthMembers (Json.optional name .string o) = 0 :=
    Json.depthMembers_optional (fun _ => rfl) name o
  have hclass (name : String) (o : Option MediaClass) :
      Json.depthMembers (Json.optional name MediaClass.toJson o) = 0 :=
    Json.depthMembers_optional (fun _ => rfl) name o
  have hidentifier : (Json.nullable .string n.identifier).depth = 0 :=
    Json.depth_nullable (fun _ => rfl) n.identifier
  have hname : n.mediaClass.toJson.depth = 0 := rfl
  rw [toJson_eq]
  cases n.children <;>
    simp [ownMembers, childrenMember, Json.depth, Json.depthMembers, Json.depthMembers_append,
      htext, hclass, hidentifier, hname]

/-! ### Reading -/

theorem finds_mediaClass (c : MediaClass) : MediaClass.decode.Finds c.toJson c 0 := by
  intro depth _
  cases depth <;> simp [MediaClass.decode, Decoder.choice, MediaClass.toJson, Json.reading]

/-- An identifier is found, spelled as nothing or as a string. -/
theorem finds_identifier (o : Option String) :
    Decoder.string.optional.Finds (Json.nullable .string o) o 0 := by
  cases o with
  | none => exact fun _ _ => rfl
  | some s => exact Decoder.finds_optional (Decoder.finds_string s) nofun

/-- A node of which everything but the children was read. -/
def ownDraft (n : Node) : Draft :=
  ⟨some n.domain, some n.identifier, some n.mediaClass, n.contentType.map some, some n.title,
    some n.canPlay, some n.canExpand, n.thumbnail.map some, n.childrenClass.map some, none⟩

/-- The members in front of the children fill their fields, however few nestings are left. -/
theorem members_own (child : Decoder Node) (depth : Nat) (n : Node)
    (back : List (Reading × Reading)) :
    (shape child).members depth (shape child).blank
      (n.ownMembers.map Json.memberReading ++ back) =
      (shape child).members depth n.ownDraft back := by
  have hroom := Nat.zero_le depth
  have hbool (b : Bool) : Decoder.bool.Finds (.bool b) b 0 := fun _ _ => rfl
  simp only [ownMembers, List.map_append, List.map_cons, List.append_assoc, List.cons_append]
  refine ((shape child).members_field (fun d => ⟨some d, none, none, none, none, none, none, none,
    none, none⟩) rfl rfl (fun _ => rfl) (Decoder.finds_string n.domain) hroom _).trans ?_
  refine ((shape child).members_field (fun i => ⟨some n.domain, some i, none, none, none, none,
    none, none, none, none⟩) rfl rfl (fun _ => rfl) (finds_identifier n.identifier) hroom
    _).trans ?_
  refine ((shape child).members_field (fun c => ⟨some n.domain, some n.identifier, some c, none,
    none, none, none, none, none, none⟩) rfl rfl (fun _ => rfl) (finds_mediaClass n.mediaClass)
    hroom _).trans ?_
  refine ((shape child).members_optional (fun o => ⟨some n.domain, some n.identifier,
    some n.mediaClass, o, none, none, none, none, none, none⟩) rfl rfl (fun _ => rfl)
    (fun t _ => Decoder.finds_string t) nofun hroom _).trans ?_
  refine ((shape child).members_field (fun t => ⟨some n.domain, some n.identifier,
    some n.mediaClass, n.contentType.map some, some t, none, none, none, none, none⟩) rfl rfl
    (fun _ => rfl) (Decoder.finds_string n.title) hroom _).trans ?_
  refine ((shape child).members_field (fun b => ⟨some n.domain, some n.identifier,
    some n.mediaClass, n.contentType.map some, some n.title, some b, none, none, none, none⟩) rfl
    rfl (fun _ => rfl) (hbool n.canPlay) hroom _).trans ?_
  refine ((shape child).members_field (fun b => ⟨some n.domain, some n.identifier,
    some n.mediaClass, n.contentType.map some, some n.title, some n.canPlay, some b, none, none,
    none⟩) rfl rfl (fun _ => rfl) (hbool n.canExpand) hroom _).trans ?_
  refine ((shape child).members_optional (fun o => ⟨some n.domain, some n.identifier,
    some n.mediaClass, n.contentType.map some, some n.title, some n.canPlay, some n.canExpand, o,
    none, none⟩) rfl rfl (fun _ => rfl) (fun t _ => Decoder.finds_string t) nofun hroom
    _).trans ?_
  exact (shape child).members_optional (fun o => ⟨some n.domain, some n.identifier,
    some n.mediaClass, n.contentType.map some, some n.title, some n.canPlay, some n.canExpand,
    n.thumbnail.map some, o, none⟩) rfl rfl (fun _ => rfl) (fun c _ => finds_mediaClass c) nofun
    hroom _

/-- A list of children is read if each of them is; otherwise it is damage as the first one is that
goes too deep. -/
theorem list_reading {child : Decoder Node} {depth : Nat}
    (h : ∀ n : Node, child depth n.toJson.reading =
      if n.toJson.depth ≤ depth then .ok n else .error .malformed) (cs : List Node) :
    Decoder.elements (child depth) (cs.map fun n => n.toJson.reading) =
      if Json.depthElements (cs.map toJson) ≤ depth then .ok cs else .error .malformed := by
  induction cs with
  | nil => rfl
  | cons c cs ih =>
      rw [List.map_cons, Decoder.elements, h c, ih]
      simp only [List.map_cons, Json.depthElements, Nat.max_le]
      by_cases hc : c.toJson.depth ≤ depth
      · by_cases hcs : Json.depthElements (cs.map toJson) ≤ depth
        · simp [hc, hcs, bind, Except.bind, pure, Except.pure]
        · simp [hc, hcs, bind, Except.bind]
      · simp [hc, bind, Except.bind]

/-- What is left of reading a node once the members in front of its children are read. -/
theorem decode_shape (child : Decoder Node) (depth : Nat) (n : Node) :
    (shape child).decode (depth + 1) n.toJson.reading =
      match n.children with
      | none => .ok n
      | some cs =>
        (child.list depth (.array (cs.map fun c => c.toJson.reading))).map fun cs =>
          mk n.domain n.identifier n.mediaClass n.contentType n.title n.canPlay n.canExpand
            n.thumbnail n.childrenClass (some cs) := by
  have hjoin {α : Type} (o : Option α) := Json.Shape.join_map_some o
  rw [toJson_eq, Json.reading, Json.memberReadings_eq_map, Json.Shape.decode, List.map_append,
    members_own]
  cases hn : n.children with
  | none =>
      obtain ⟨⟩ := n
      cases hn
      simp [childrenMember, ownDraft, shape, Draft.finish, hjoin, Node.domain, Node.identifier,
        Node.mediaClass, Node.contentType, Node.title, Node.canPlay, Node.canExpand,
        Node.thumbnail, Node.childrenClass, bind, Except.bind]
  | some cs =>
      have hmember : (childrenMember (some cs)).map Json.memberReading =
          [(.string (some "children"), .array (cs.map fun c => c.toJson.reading))] := by
        simp [childrenMember, Json.memberReading, Json.reading, Function.comp_def]
      rw [hmember, (shape child).members_single rfl rfl]
      show Except.bind (Except.bind (Except.map some (child.list depth (.array _))) _) _ =
        Except.map _ (child.list depth (.array _))
      generalize child.list depth (.array _) = answer
      cases answer with
      | error p => rfl
      | ok cs' =>
          simp [Except.map, Except.bind, pure, Except.pure, ownDraft, shape, Draft.finish, hjoin]

/-- Where no nesting is left there is no node. -/
theorem decodeLevels_zero (levels : Nat) (n : Node) :
    decodeLevels levels 0 n.toJson.reading = .error .malformed := by
  rw [toJson_eq]
  cases levels <;> rfl

theorem depth_toJson_pos (n : Node) : 0 < n.toJson.depth := by
  rw [depth_toJson]
  split <;> omega

/-- **A node is read from its JSON** if so many nestings are allowed as it takes, and is damage if
fewer are. -/
theorem decodeLevels_reading {levels depth : Nat} (h : depth ≤ levels) (n : Node) :
    decodeLevels levels depth n.toJson.reading =
      if n.toJson.depth ≤ depth then .ok n else .error .malformed := by
  induction levels generalizing depth n with
  | zero =>
      obtain rfl : depth = 0 := by omega
      rw [decodeLevels_zero, if_neg (Nat.not_le_of_lt n.depth_toJson_pos)]
  | succ levels ih =>
      cases depth with
      | zero => rw [decodeLevels_zero, if_neg (Nat.not_le_of_lt n.depth_toJson_pos)]
      | succ depth =>
          rw [decodeLevels, decode_shape, depth_toJson]
          cases hn : n.children with
          | none => simp
          | some cs =>
              -- the list takes one nesting, and each child starts with what is left
              cases depth with
              | zero => rfl
              | succ depth =>
                  have hcs := list_reading (ih (show depth ≤ levels by omega)) cs
                  simp only [Decoder.list, hcs, Nat.add_le_add_iff_right]
                  split
                  · obtain ⟨⟩ := n
                    cases hn
                    rfl
                  · rfl

/-! ### Texts -/

/-- All numbers among the members of a node but its children have 64 bits: there is none. -/
theorem fit_ownMembers (n : Node) : Json.FitMembers n.ownMembers := by
  rw [Json.fitMembers_iff]
  intro m hm
  have htext (s : String) : (Json.string s).Fits := trivial
  have hclass (c : MediaClass) : c.toJson.Fits := trivial
  have hbool (b : Bool) : (Json.bool b).Fits := trivial
  have hidentifier : (Json.nullable .string n.identifier).Fits := by cases n.identifier <;> trivial
  simp only [ownMembers, List.mem_cons, List.mem_append] at hm
  rcases hm with rfl | rfl | rfl | hm | rfl | rfl | rfl | hm | hm
  · exact htext _
  · exact hidentifier
  · exact hclass _
  · exact Json.fits_of_mem_optional (fun t _ => htext t) hm
  · exact htext _
  · exact hbool _
  · exact hbool _
  · exact Json.fits_of_mem_optional (fun t _ => htext t) hm
  · exact Json.fits_of_mem_optional (fun c _ => hclass c) hm

mutual

/-- All numbers of a node have 64 bits. -/
theorem fits_toJson : ∀ n : Node, n.toJson.Fits
  | mk domain identifier mediaClass contentType title canPlay canExpand thumbnail childrenClass
      children => by
      have hown := fit_ownMembers (mk domain identifier mediaClass contentType title canPlay
        canExpand thumbnail childrenClass children)
      have hchildren := fit_childrenMember children
      rw [toJson_eq]
      rw [Json.fitMembers_iff] at hown hchildren
      rw [Json.Fits, Json.fitMembers_iff]
      intro m hm
      rcases List.mem_append.1 hm with hm | hm
      · exact hown m hm
      · exact hchildren m hm

theorem fit_childrenMember : ∀ o : Option (List Node), Json.FitMembers (childrenMember o)
  | none => trivial
  | some cs => ⟨fit_toJsons cs, trivial⟩

theorem fit_toJsons : ∀ ns : List Node, Json.FitElements (toJsons ns)
  | [] => trivial
  | n :: ns => ⟨fits_toJson n, fit_toJsons ns⟩

end

/-- **Both layouts of a node are read as the node itself, exactly if it is nested at most 127
deep.**  Otherwise the text is damage to the reader. -/
theorem texts_read_back (n : Node) :
    let answer := if n.toJson.depth ≤ 127 then Except.ok n else .error .malformed
    Json.decodeBytes decode n.toJson.compact.toUTF8 = answer ∧
      Json.decodeBytes decode n.toJson.pretty.toUTF8 = answer := by
  have hread : decode Json.nestingLimit n.toJson.reading =
      if n.toJson.depth ≤ 127 then .ok n else .error .malformed :=
    decodeLevels_reading (Nat.le_refl _) n
  have htext {st : Json.Style} (hst : st.IsBlank) :
      Json.decodeBytes decode (String.ofList (n.toJson.render st 0)).toUTF8 =
        if n.toJson.depth ≤ 127 then .ok n else .error .malformed := by
    rw [Json.decodeBytes, Json.Document.ofBytes_render hst n.fits_toJson, Json.Document.decode]
    simp only [hread]
    split <;> rfl
  exact ⟨htext Json.Style.isBlank_compact, htext Json.Style.isBlank_pretty⟩

end Node

end MediaTree
