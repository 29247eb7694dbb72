import Mathlib.Data.List.Nodup

/-! Records that are filled in entry by entry, each entry writing some of the fields.

A field ends up with what the last entry wrote that wrote it. From this alone follow the frame of an
entry, the independence of a field from what it held before, and that the order does not matter where no
field is written twice.
-/

set_option autoImplicit false

namespace Libdiscord.Base

section Last
variable {Entry Value : Type} {writes : Entry → Option Value} {entries other : List Entry}

/-- What the last entry writes that writes anything. -/
def last? (writes : Entry → Option Value) (entries : List Entry) : Option Value :=
  (entries.filterMap writes).getLast?

@[simp] theorem last?_nil : last? writes [] = none := rfl

theorem last?_cons (e : Entry) (entries : List Entry) :
    last? writes (e :: entries) = (last? writes entries).or (writes e) := by
  unfold last?
  cases written : writes e with
  | none => rw [List.filterMap_cons_none written, Option.or_none]
  | some value =>
    rw [List.filterMap_cons_some written, List.getLast?_cons]
    cases (entries.filterMap writes).getLast? <;> rfl

theorem last?_eq_none : last? writes entries = none ↔ ∀ e ∈ entries, writes e = none := by
  rw [last?, List.getLast?_eq_none_iff, List.filterMap_eq_nil_iff]

theorem last?_eq_some {value : Value} (last : last? writes entries = some value) :
    ∃ e ∈ entries, writes e = some value := List.mem_filterMap.mp (List.mem_of_getLast? last)

theorem last?_isSome : (last? writes entries).isSome = true ↔ ∃ e ∈ entries, (writes e).isSome = true := by
  rw [← not_iff_not, Option.not_isSome_iff_eq_none, last?_eq_none]
  simp

theorem last?_map {Other : Type} (convert : Value → Other) :
    last? (fun e => (writes e).map convert) entries = (last? writes entries).map convert := by
  rw [last?, last?, ← List.getLast?_map, List.map_filterMap]

theorem last?_bind {Other : Type} {decode : Value → Option Other} {value : Value} {decoded : Other}
    (last : last? writes entries = some value) (known : decode value = some decoded) :
    last? (fun e => (writes e).bind decode) entries = some decoded := by
  induction entries with
  | nil => simp at last
  | cons e entries ih =>
    rw [last?_cons, Option.or_eq_some_iff] at last
    rw [last?_cons, Option.or_eq_some_iff]
    rcases last with later | ⟨silent, here⟩
    · exact .inl (ih later)
    · have after : last? (fun e => (writes e).bind decode) entries = none := by
        apply last?_eq_none.mpr
        intro other member
        rw [last?_eq_none.mp silent other member, Option.bind_none]
      exact .inr ⟨after, by rw [here, Option.bind_some, known]⟩

theorem last?_filter {keep : Entry → Bool} (silent : ∀ e, keep e = false → writes e = none) :
    last? writes (entries.filter keep) = last? writes entries := by
  unfold last?
  rw [List.filterMap_filter]
  congr 2
  funext e
  cases kept : keep e with
  | true => simp
  | false => simp [silent e kept]

theorem last?_perm (perm : entries.Perm other) (once : (entries.filterMap writes).length ≤ 1) :
    last? writes entries = last? writes other := by
  have same := perm.filterMap writes
  unfold last?
  match written : entries.filterMap writes with
  | [] =>
    rw [written] at same
    rw [List.nil_perm.mp same]
  | [value] =>
    rw [written] at same
    rw [List.singleton_perm.mp same]
  | _ :: _ :: _ => simp [written] at once

theorem once_of_nodup {Name : Type} (name : Entry → Name) (own : Name) (distinct : (entries.map name).Nodup)
    (named : ∀ e, (writes e).isSome = true → name e = own) : (entries.filterMap writes).length ≤ 1 := by
  induction entries with
  | nil => simp
  | cons e entries ih =>
    obtain ⟨fresh, distinct⟩ := List.nodup_cons.mp distinct
    cases written : writes e with
    | none =>
      rw [List.filterMap_cons_none written]
      exact ih distinct
    | some value =>
      have others : entries.filterMap writes = [] := by
        apply List.filterMap_eq_nil_iff.mpr
        intro later member
        apply Option.not_isSome_iff_eq_none.mp
        intro twice
        have here : name e = own := named e (by rw [written]; rfl)
        rw [here, ← named later twice] at fresh
        exact fresh (List.mem_map_of_mem member)
      rw [List.filterMap_cons_some written, others]
      exact Nat.le_refl 1

end Last

/-- A record with its fields, and the step that takes one entry. A field keeps what it holds unless the
entry writes it. -/
structure Filling (Record Entry Field : Type) (Value : Field → Type) where
  get : (f : Field) → Record → Value f
  writes : (f : Field) → Entry → Option (Value f)
  step : Record → Entry → Record
  ext : ∀ {r other : Record}, (∀ f, get f r = get f other) → r = other
  get_step : ∀ f r e, get f (step r e) = (writes f e).getD (get f r)

namespace Filling
variable {Record Entry Field : Type} {Value : Field → Type} (filling : Filling Record Entry Field Value)

def fill (r : Record) (entries : List Entry) : Record := entries.foldl filling.step r

theorem get_fill (f : Field) (r : Record) (entries : List Entry) :
    filling.get f (filling.fill r entries) = (last? (filling.writes f) entries).getD (filling.get f r) := by
  induction entries generalizing r with
  | nil => rfl
  | cons e entries ih =>
    have later : filling.fill r (e :: entries) = filling.fill (filling.step r e) entries := rfl
    rw [later, ih, filling.get_step, last?_cons]
    cases last? (filling.writes f) entries <;> rfl

/-- The frame rule: a field that nothing writes is left as it was. -/
theorem get_fill_of_silent {f : Field} {entries : List Entry}
    (silent : ∀ e ∈ entries, filling.writes f e = none) (r : Record) :
    filling.get f (filling.fill r entries) = filling.get f r := by
  rw [filling.get_fill, last?_eq_none.mpr silent, Option.getD_none]

/-- The order rule: entries that do not write a field twice may come in any order. -/
theorem fill_perm {entries other : List Entry} (perm : entries.Perm other)
    (once : ∀ f, (entries.filterMap (filling.writes f)).length ≤ 1) (r : Record) :
    filling.fill r entries = filling.fill r other := by
  apply filling.ext
  intro f
  rw [filling.get_fill, filling.get_fill, last?_perm perm (once f)]

/-- Nothing is left of what the record held exactly if every field is written, provided that there are two
records which differ in every field. -/
theorem fill_alone_iff {zero one : Record} (apart : ∀ f, filling.get f zero ≠ filling.get f one)
    (entries : List Entry) :
    (∀ r other, filling.fill r entries = filling.fill other entries) ↔
      ∀ f, ∃ e ∈ entries, (filling.writes f e).isSome = true := by
  constructor
  · intro alone f
    apply last?_isSome.mp
    apply Option.isSome_iff_ne_none.mpr
    intro unwritten
    have same := congrArg (filling.get f) (alone zero one)
    rw [filling.get_fill, filling.get_fill, unwritten, Option.getD_none, Option.getD_none] at same
    exact apart f same
  · intro written r other
    apply filling.ext
    intro f
    obtain ⟨value, last⟩ := Option.isSome_iff_exists.mp (last?_isSome.mpr (written f))
    rw [filling.get_fill, filling.get_fill, last, Option.getD_some, Option.getD_some]

end Filling

/-- A decoder that goes through named members. A member of a field's name is stored in the field, if it can
be decoded; members of other names are passed over. A field without a name is never stored into. -/
structure Decoder (Record Name Data Field : Type) (Value : Field → Type) where
  name : Field → Option Name
  decode : (f : Field) → Data → Option (Value f)
  get : (f : Field) → Record → Value f
  put : (f : Field) → Value f → Record → Record
  step : Record → Name × Data → Record
  ext : ∀ {r other : Record}, (∀ f, get f r = get f other) → r = other
  name_injective : ∀ {f g : Field} {n : Name}, name f = some n → name g = some n → f = g
  get_put_same : ∀ f value r, get f (put f value r) = value
  get_put_other : ∀ {f g} value r, g ≠ f → get f (put g value r) = get f r
  known : ∀ {f n} r data, name f = some n → step r (n, data) = (decode f data).elim r fun value => put f value r
  unknown : ∀ {n} r data, (∀ f, name f ≠ some n) → step r (n, data) = r

namespace Decoder
variable {Record Name Data Field : Type} [DecidableEq Name] {Value : Field → Type}
  (decoder : Decoder Record Name Data Field Value)

def writes (f : Field) (member : Name × Data) : Option (Value f) :=
  if decoder.name f = some member.1 then decoder.decode f member.2 else none

theorem writes_eq_some {f : Field} {member : Name × Data} {value : Value f} :
    decoder.writes f member = some value ↔
      decoder.name f = some member.1 ∧ decoder.decode f member.2 = some value := by
  unfold writes
  by_cases named : decoder.name f = some member.1
  · rw [if_pos named, and_iff_right named]
  · rw [if_neg named]
    exact iff_of_false nofun fun both => named both.1

theorem writes_isSome {f : Field} {member : Name × Data} :
    (decoder.writes f member).isSome = true ↔
      decoder.name f = some member.1 ∧ (decoder.decode f member.2).isSome = true := by
  simp only [Option.isSome_iff_exists, writes_eq_some, exists_and_left]

theorem get_step (f : Field) (r : Record) (member : Name × Data) :
    decoder.get f (decoder.step r member) = (decoder.writes f member).getD (decoder.get f r) := by
  obtain ⟨n, data⟩ := member
  unfold Decoder.writes
  by_cases known : ∃ g, decoder.name g = some n
  · obtain ⟨g, named⟩ := known
    rw [decoder.known r data named]
    by_cases own : g = f
    · subst own
      rw [if_pos named]
      cases decoder.decode g data with
      | none => rfl
      | some value => exact decoder.get_put_same g value r
    · rw [if_neg fun same => own (decoder.name_injective named same)]
      cases decoder.decode g data with
      | none => rfl
      | some value => exact decoder.get_put_other value r own
  · have unknown : ∀ g, decoder.name g ≠ some n := fun g named => known ⟨g, named⟩
    rw [decoder.unknown r data unknown, if_neg (unknown f), Option.getD_none]

def filling : Filling Record (Name × Data) Field Value where
  get := decoder.get
  writes := decoder.writes
  step := decoder.step
  ext := decoder.ext
  get_step := decoder.get_step

def fill (r : Record) (members : List (Name × Data)) : Record := decoder.filling.fill r members

theorem fill_perm {members other : List (Name × Data)} (perm : members.Perm other)
    (distinct : (members.map (·.1)).Nodup) (r : Record) : decoder.fill r members = decoder.fill r other := by
  apply decoder.filling.fill_perm perm
  intro f
  refine once_of_nodup (fun member => some member.1) (decoder.name f) ?_ ?_
  · have named : (members.map fun member => some member.1) = (members.map (·.1)).map some := by
      rw [List.map_map]
      rfl
    rw [named]
    exact List.Nodup.map (fun _ _ => Option.some.inj) distinct
  · intro member writes
    exact (decoder.writes_isSome.mp writes).1.symm

theorem get_fill_own (f : Field) (r : Record) (members : List (Name × Data)) :
    decoder.get f (decoder.fill r members) =
      decoder.get f (decoder.fill r (members.filter fun member => decoder.name f = some member.1)) := by
  have left := decoder.filling.get_fill f r members
  have right := decoder.filling.get_fill f r (members.filter fun member => decoder.name f = some member.1)
  refine left.trans (Eq.trans ?_ right.symm)
  rw [last?_filter]
  intro member other
  exact if_neg (of_decide_eq_false other)

theorem get_fill_insert {f : Field} {member : Name × Data} (other : decoder.name f ≠ some member.1) (r : Record)
    (before after : List (Name × Data)) :
    decoder.get f (decoder.fill r (before ++ member :: after)) =
      decoder.get f (decoder.fill r (before ++ after)) := by
  rw [get_fill_own, decoder.get_fill_own f r (before ++ after), List.filter_append, List.filter_append,
    List.filter_cons_of_neg (by simpa using other)]

theorem get_fill_of_undecoded {f : Field} {members : List (Name × Data)}
    (undecoded : ∀ member ∈ members, decoder.name f = some member.1 → decoder.decode f member.2 = none)
    (r : Record) : decoder.get f (decoder.fill r members) = decoder.get f r := by
  apply decoder.filling.get_fill_of_silent
  intro member inside
  show (if decoder.name f = some member.1 then decoder.decode f member.2 else none) = none
  split
  · next named => exact undecoded member inside named
  · rfl

theorem get_fill_cases (f : Field) (r : Record) (members : List (Name × Data)) :
    (∃ member ∈ members, decoder.name f = some member.1 ∧
      decoder.decode f member.2 = some (decoder.get f (decoder.fill r members))) ∨
    decoder.get f (decoder.fill r members) = decoder.get f r ∧
      ∀ member ∈ members, decoder.name f = some member.1 → decoder.decode f member.2 = none := by
  have filled : decoder.get f (decoder.fill r members) =
      (last? (decoder.writes f) members).getD (decoder.get f r) := decoder.filling.get_fill f r members
  cases last : last? (decoder.writes f) members with
  | some value =>
    obtain ⟨member, inside, written⟩ := last?_eq_some last
    rw [filled, last, Option.getD_some]
    exact .inl ⟨member, inside, decoder.writes_eq_some.mp written⟩
  | none =>
    rw [filled, last, Option.getD_none]
    refine .inr ⟨rfl, fun member inside named => ?_⟩
    have unwritten := last?_eq_none.mp last member inside
    exact (if_pos named).symm.trans unwritten

theorem get_fill_last {f : Field} {n : Name} (named : decoder.name f = some n) {members : List (Name × Data)}
    {data : Data} (last : last? (fun member => if member.1 = n then some member.2 else none) members = some data)
    {value : Value f} (decoded : decoder.decode f data = some value) (r : Record) :
    decoder.get f (decoder.fill r members) = value := by
  have written : decoder.writes f =
      fun member => (if member.1 = n then some member.2 else none).bind (decoder.decode f) := by
    funext member
    unfold Decoder.writes
    rw [named]
    by_cases own : member.1 = n
    · rw [if_pos own, if_pos (congrArg some own.symm), Option.bind_some]
    · rw [if_neg own, if_neg fun same => own (Option.some.inj same).symm, Option.bind_none]
  have filled : decoder.get f (decoder.fill r members) =
      (last? (decoder.writes f) members).getD (decoder.get f r) := decoder.filling.get_fill f r members
  rw [filled, written, last?_bind last decoded, Option.getD_some]

theorem fill_alone_iff {zero one : Record} (apart : ∀ f, decoder.get f zero ≠ decoder.get f one)
    (members : List (Name × Data)) :
    (∀ r other, decoder.fill r members = decoder.fill other members) ↔
      ∀ f, ∃ member ∈ members, decoder.name f = some member.1 ∧
        (decoder.decode f member.2).isSome = true := by
  refine (decoder.filling.fill_alone_iff apart members).trans (forall_congr' fun f => ?_)
  exact exists_congr fun member => and_congr_right fun _ => decoder.writes_isSome

end Decoder

end Libdiscord.Base
