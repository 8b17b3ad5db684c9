import JobWatch.Wire.Codec

/-!
# Members in any order

A record is read by the names of its fields, so the order of the members of its object does not
count. An arrangement changes that order in a value and in the values inside it; leaving a value
as it is and putting its members in key order are two of them.
-/

set_option autoImplicit false

namespace JobWatch

/-! ## Reading members -/

namespace Raw

theorem ofMembers_eq_map (members : List (String × Json)) :
    ofMembers members = members.map fun member => (some member.1, ofJson member.2) := by
  induction members with
  | nil => rfl
  | cons member rest ih => simp [ofMembers, ih]

section

variable {members : List (String × Json)}

theorem filter_ofMembers (kept : Option String → Bool) (members : List (String × Json)) :
    (ofMembers members).filter (fun member => kept member.1) =
      ofMembers (members.filter fun member => kept (some member.1)) := by
  rw [ofMembers_eq_map, ofMembers_eq_map, List.filter_map]
  rfl

theorem filter_key_of_absent {name : String} (absent : name ∉ members.map Prod.fst) :
    members.filter (fun member => member.1 == name) = [] := by
  rw [List.filter_eq_nil_iff]
  intro member listed
  rw [beq_iff_eq]
  intro same
  exact absent (same ▸ List.mem_map_of_mem listed)

theorem filter_key (distinct : (members.map Prod.fst).Nodup) {name : String} {value : Json}
    (listed : (name, value) ∈ members) :
    members.filter (fun member => member.1 == name) = [(name, value)] := by
  induction members with
  | nil => cases listed
  | cons member rest ih =>
      obtain ⟨absent, remaining⟩ := List.nodup_cons.mp distinct
      rcases List.mem_cons.mp listed with same | later
      · subst same
        simp [filter_key_of_absent absent]
      · have different : member.1 ≠ name := by
          intro same
          exact absent (same ▸ List.mem_map_of_mem (f := Prod.fst) later)
        simp [different, ih remaining later]

theorem member?_ofMembers (distinct : (members.map Prod.fst).Nodup) {name : String} {value : Json}
    (listed : (name, value) ∈ members) :
    member? name (ofMembers members) = some (some (ofJson value)) := by
  have only : (ofMembers members).filter (fun member => member.1 == some name) =
      ofMembers (members.filter fun member => member.1 == name) :=
    filter_ofMembers (· == some name) members
  rw [member?, only, filter_key distinct listed]
  rfl

theorem fields?_ofJson (distinct : (members.map Prod.fst).Nodup)
    {wanted : List (String × Json)} (within : wanted ⊆ members) (held : Bool) :
    fields? ⟨none, held⟩ (wanted.map Prod.fst) (ofJson (.obj members)) =
      some (⟨none, held⟩, wanted.map fun member => some (ofJson member.2)) := by
  have named : (ofMembers members).all (fun member => member.1.isSome) = true := by
    rw [ofMembers_eq_map]
    simp
  have found : (wanted.map Prod.fst).mapM (fun name => member? name (ofMembers members)) =
      some (wanted.map fun member => some (ofJson member.2)) := by
    induction wanted with
    | nil => rfl
    | cons member rest ih =>
        have first := member?_ofMembers distinct (within List.mem_cons_self)
        have others := ih fun _ listed => within (List.mem_cons_of_mem _ listed)
        simp [first, others]
  simp [ofJson, fields?, named, found]

/-- A tag is taken off wherever it stands. -/
theorem tagged?_ofJson {rest : List (String × Json)} {name : String} {names : List String}
    {index : Nat} (distinct : (members.map Prod.fst).Nodup)
    (arranged : members.Perm ((tagKey, .str name) :: rest))
    (known : names.findIdx? (· == name) = some index) (held : Bool) :
    ∃ others, others.Perm rest ∧
      (ofJson (.obj members)).tagged? held names = some (index, ofJson (.obj others)) := by
  have tag := member?_ofMembers distinct (arranged.mem_iff.mpr List.mem_cons_self)
  refine ⟨members.filter fun member => member.1 != tagKey, ?_, ?_⟩
  · have untagged : tagKey ∉ rest.map Prod.fst := by
      have same := (arranged.map Prod.fst).nodup_iff.mp distinct
      exact (List.nodup_cons.mp same).1
    have kept : rest.filter (fun member => member.1 != tagKey) = rest := by
      rw [List.filter_eq_self]
      intro member listed
      rw [bne_iff_ne]
      intro same
      exact untagged (same ▸ List.mem_map_of_mem listed)
    have filtered := arranged.filter fun member => member.1 != tagKey
    simpa [kept] using filtered
  · have others : (ofMembers members).filter (fun member => member.1 != some tagKey) =
        ofMembers (members.filter fun member => member.1 != tagKey) :=
      filter_ofMembers (· != some tagKey) members
    simp only [ofJson, tagged?, tag, others, Option.bind_some, tagIndex?, known, Option.map_some]

end

@[simp] theorem hold?_ofJson (held : Bool) (v : Json) :
    (ofJson v).hold? ⟨none, held⟩ = some (ofJson v) := by
  cases held <;> simp [hold?]

end Raw

/-! ## Arrangements -/

/-- A way to order the members of objects: nothing but their order is changed, in an object with
distinct keys and inside its members. -/
structure Arrangement where
  arrange : Json → Json
  null : arrange .null = .null
  bool : ∀ b, arrange (.bool b) = .bool b
  num : ∀ n, arrange (.num n) = .num n
  str : ∀ s, arrange (.str s) = .str s
  obj : ∀ members : List (String × Json), (members.map Prod.fst).Nodup →
    ∃ others, arrange (.obj members) = .obj others ∧
      others.Perm (members.map fun member => (member.1, arrange member.2))

namespace Arrangement

def asWritten : Arrangement where
  arrange v := v
  null := rfl
  bool _ := rfl
  num _ := rfl
  str _ := rfl
  obj members _ := ⟨members, rfl, by simp⟩

theorem insertMember_perm {member : String × Json} {members : List (String × Json)}
    (new : member.1 ∉ members.map Prod.fst) :
    (Json.insertMember member members).Perm (member :: members) := by
  induction members with
  | nil => exact .refl _
  | cons head tail ih =>
      simp only [List.map_cons, List.mem_cons, not_or] at new
      rw [Json.insertMember, if_neg new.1]
      split
      · exact .refl _
      · exact ((ih new.2).cons head).trans (.swap ..)

theorem sortMembers_perm {members : List (String × Json)}
    (distinct : (members.map Prod.fst).Nodup) : (Json.sortMembers members).Perm members := by
  have sorted : ∀ later earlier : List (String × Json), ((later ++ earlier).map Prod.fst).Nodup →
      (later.foldl (fun sorted member => Json.insertMember member sorted) earlier).Perm
        (later ++ earlier) := by
    intro later
    induction later with
    | nil => exact fun earlier _ => .refl _
    | cons member rest ih =>
        intro earlier distinct
        have absent := (List.nodup_cons.mp distinct).1
        rw [List.append_eq, List.map_append, List.mem_append, not_or] at absent
        have moved : (rest ++ Json.insertMember member earlier).Perm
            (member :: (rest ++ earlier)) :=
          ((insertMember_perm absent.2).append_left rest).trans List.perm_middle
        exact (ih _ ((moved.map Prod.fst).nodup_iff.mpr distinct)).trans moved
  simpa [Json.sortMembers] using sorted members [] (by simpa using distinct)

theorem canonicalMembers_eq_map (members : List (String × Json)) :
    Json.canonicalMembers members = members.map fun member => (member.1, member.2.canonical) := by
  induction members with
  | nil => rfl
  | cons member rest ih => simp [Json.canonicalMembers, ih]

def byKey : Arrangement where
  arrange := Json.canonical
  null := rfl
  bool _ := rfl
  num _ := rfl
  str _ := rfl
  obj members distinct := by
    refine ⟨_, rfl, ?_⟩
    rw [canonicalMembers_eq_map]
    apply sortMembers_perm
    simpa [Function.comp_def] using distinct

/-- Members as an arrangement leaves them, in any order. -/
def Arranges (order : Arrangement) (members others : List (String × Json)) : Prop :=
  others.Perm (members.map fun member => (member.1, order.arrange member.2))

section

variable {order : Arrangement} {members others : List (String × Json)}

theorem Arranges.distinct (arranged : order.Arranges members others)
    (distinct : (members.map Prod.fst).Nodup) : (others.map Prod.fst).Nodup := by
  have keys : (others.map Prod.fst).Perm (members.map Prod.fst) := by
    simpa [Function.comp_def] using arranged.map Prod.fst
  exact keys.nodup_iff.mpr distinct

/-- The fields of a record are found in any order. -/
theorem Arranges.fields? (arranged : order.Arranges members others)
    (distinct : (members.map Prod.fst).Nodup) (held : Bool) :
    Raw.fields? ⟨none, held⟩ (members.map Prod.fst) (Raw.ofJson (.obj others)) =
      some (⟨none, held⟩,
        members.map fun member => some (Raw.ofJson (order.arrange member.2))) := by
  have found := Raw.fields?_ofJson (arranged.distinct distinct) arranged.symm.subset held
  simpa [Function.comp_def] using found

theorem fields?_arrange (order : Arrangement) (held : Bool) {value : Json}
    {members : List (String × Json)} (written : value = .obj members)
    (distinct : (members.map Prod.fst).Nodup) :
    Raw.fields? ⟨none, held⟩ (members.map Prod.fst) (Raw.ofJson (order.arrange value)) =
      some (⟨none, held⟩,
        members.map fun member => some (Raw.ofJson (order.arrange member.2))) := by
  obtain ⟨others, changed, arranged⟩ := order.obj members distinct
  rw [written, changed]
  exact Arranges.fields? arranged distinct held

/-- A tag is taken off wherever it stands, and the fields of the choice are left. -/
theorem Arranges.tagged? {name : String} {names : List String} {index : Nat}
    (arranged : order.Arranges ((Raw.tagKey, .str name) :: members) others)
    (distinct : (Raw.tagKey :: members.map Prod.fst).Nodup)
    (known : names.findIdx? (· == name) = some index) (held : Bool) :
    ∃ rest, (Raw.ofJson (.obj others)).tagged? held names = some (index, Raw.ofJson (.obj rest)) ∧
      Raw.fields? ⟨none, true⟩ (members.map Prod.fst) (Raw.ofJson (.obj rest)) =
        some (⟨none, true⟩,
          members.map fun member => some (Raw.ofJson (order.arrange member.2))) := by
  have listed : others.Perm ((Raw.tagKey, .str name) ::
      members.map fun member => (member.1, order.arrange member.2)) := by
    simpa [Arranges, order.str] using arranged
  obtain ⟨rest, left, tagged⟩ := Raw.tagged?_ofJson (arranged.distinct distinct) listed known held
  exact ⟨rest, tagged, Arranges.fields? left (List.nodup_cons.mp distinct).2 true⟩

end

end Arrangement

end JobWatch
