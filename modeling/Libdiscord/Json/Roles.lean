import Libdiscord.Base.CString
import Libdiscord.Json.Snowflake
import Libdiscord.Json.Text

/-! The role list of a status update. -/

set_option autoImplicit false

namespace Libdiscord

open Libdiscord.Base
open Json (member? member?_set ofText)

def rolesMemory (roles : List UInt64) : Text := (roles ++ [0]).flatMap Json.bytesOf

/-- The elements the loop of `ld_json_unpack_status_update` reads. -/
def rolesRead (roles : List UInt64) : List Nat := List.range (Json.rolesStrlen roles)

/-- The update is encoded with all its roles in order, and nothing behind the terminator is read. -/
structure RolesEncoded (ex : Externals) (beyond : Nat → UInt64) (update : StatusUpdate) (roles : List UInt64) :
    Prop where
  encoded : member? "roles" (Json.unpackStatusUpdate ex beyond update).members =
    some (.array (roles.map fun flake => .string (decimalString flake)))
  inside : ∀ i ∈ rolesRead roles, i ≤ roles.length

def ByteCounted (roles : List UInt64) : Prop :=
  (∀ i < roles.length, (rolesMemory roles)[i]? ≠ some 0) ∧ (rolesMemory roles)[roles.length]? = some 0

instance (roles : List UInt64) : Decidable (ByteCounted roles) :=
  inferInstanceAs (Decidable (_ ∧ _))

section
variable {ex : Externals} {beyond : Nat → UInt64} {update : StatusUpdate} {roles : List UInt64}

theorem rolesMemory_terminated (roles : List UInt64) :
    rolesMemory roles = roles.flatMap Json.bytesOf ++ Json.bytesOf 0 := by
  simp [rolesMemory]

theorem rolesMemory_length (roles : List UInt64) : (rolesMemory roles).length = 8 * (roles.length + 1) := by
  have eight : ∀ flake, (Json.bytesOf flake).length = 8 := fun flake => by simp [Json.bytesOf]
  rw [rolesMemory, List.length_flatMap, List.map_congr_left fun flake _ => eight flake]
  simp only [List.map_const', List.sum_replicate_nat, List.length_append, List.length_singleton]
  exact Nat.mul_comm _ _

/-- The string ends in the terminator of the array at the latest. -/
theorem rolesStrlen_memory (roles : List UInt64) :
    Json.rolesStrlen roles = ((rolesMemory roles).takeWhile (· ≠ 0)).length := by
  have zeros : (Json.bytesOf 0).takeWhile (· ≠ 0) = [] := by decide
  rw [Json.rolesStrlen, rolesMemory_terminated, List.takeWhile_append, zeros, List.append_nil]
  split
  · next all => exact all
  · rfl

theorem rolesStrlen_iff (roles : List UInt64) : Json.rolesStrlen roles = roles.length ↔ ByteCounted roles := by
  have long := rolesMemory_length roles
  have byte : ∀ i ≤ roles.length, ∃ byte, (rolesMemory roles)[i]? = some byte := fun i bound =>
    ⟨_, List.getElem?_eq_getElem (by omega)⟩
  obtain ⟨last, lastByte⟩ := byte roles.length (Nat.le_refl _)
  rw [rolesStrlen_memory, length_takeWhile_iff, ByteCounted, lastByte]
  refine and_congr (forall_congr' fun i => forall_congr' fun bound => ?_) ?_
  · obtain ⟨here, found⟩ := byte i (Nat.le_of_lt bound)
    simp [found]
  · simp

theorem roles_member (beyond : Nat → UInt64)
    (accepted : ∀ text : Text, (∀ byte ∈ text, 48 ≤ byte ∧ byte ≤ 57) → ex.checkUtf8 text = true)
    (given : update.roles = some roles) :
    member? "roles" (Json.unpackStatusUpdate ex beyond update).members =
      some (.array ((rolesRead roles).map fun i =>
        .string (decimalString (((roles ++ [0])[i]?).getD (beyond i))))) := by
  have taken : ∀ flake, ofText ex (some (Json.snowflake2str flake)) = some (.string (decimalString flake)) :=
    fun flake => by
      rw [snowflake2str_eq, ofText, Option.bind_some, if_pos (accepted _ (decimalString_digits flake))]
  have appended : ∀ element : Nat → UInt64, (List.range (Json.rolesStrlen roles)).filterMap (fun i =>
      ofText ex (some (Json.snowflake2str (element i)))) =
      (rolesRead roles).map fun i => .string (decimalString (element i)) := by
    intro element
    simp only [taken]
    exact congrFun List.filterMap_eq_map _
  simp only [Json.unpackStatusUpdate, given, Json.members, member?_set, appended]
  simp

/-- The role list is encoded as wanted exactly if there are as many bytes in front of the first zero byte of
the array as it has elements. -/
theorem roles_encoded_iff
    (accepted : ∀ text : Text, (∀ byte ∈ text, 48 ≤ byte ∧ byte ≤ 57) → ex.checkUtf8 text = true)
    (given : update.roles = some roles) : RolesEncoded ex beyond update roles ↔ ByteCounted roles := by
  rw [← rolesStrlen_iff]
  have stored := roles_member beyond accepted given
  constructor
  · intro good
    have same := Json.array.inj (Option.some.inj (stored.symm.trans good.encoded))
    have lengths := congrArg List.length same
    simpa [rolesRead] using lengths
  · intro counted
    refine ⟨?_, fun i read => ?_⟩
    · have elements : (List.range roles.length).map (fun i => ((roles ++ [0])[i]?).getD (beyond i)) = roles := by
        apply List.ext_getElem (by simp)
        intro i _ bound
        simp [List.getElem?_append_left bound, bound]
      have mapped := congrArg (List.map fun flake => Json.string (decimalString flake)) elements
      rw [List.map_map] at mapped
      rw [stored, rolesRead, counted]
      exact congrArg (fun elements => some (Json.array elements)) mapped
    · rw [rolesRead, counted, List.mem_range] at read
      exact Nat.le_of_lt read

/-- What is wanted: the roles of every status update are encoded. -/
def RolesAlwaysEncoded (ex : Externals) : Prop :=
  ∀ beyond update roles, update.roles = some roles → (∀ flake ∈ roles, flake ≠ 0) →
    RolesEncoded ex beyond update roles

/-- One role whose eight bytes are none of them zero is read as eight. -/
theorem roles_overread : ¬RolesAlwaysEncoded (.knowing []) := by
  intro wanted
  have nonzero : ∀ flake ∈ [(290926798626357999 : UInt64)], flake ≠ 0 := by simp
  have good := wanted (fun _ => 0) ⟨some [290926798626357999], 0, 0⟩ _ rfl nonzero
  exact absurd (good.inside 7 (by decide)) (by decide)

theorem roles_encoded_iff_small :
    RolesEncoded (.knowing []) (fun _ => 0) ⟨some [258, 7], 0, 0⟩ [258, 7] := by
  have accepted : ∀ text : Text, (∀ byte ∈ text, 48 ≤ byte ∧ byte ≤ 57) →
      (Externals.knowing []).checkUtf8 text = true := fun text digits => by
    simp only [Externals.knowing, List.all_eq_true, decide_eq_true_eq]
    exact fun byte member => UInt8.lt_of_le_of_lt (digits byte member).2 (by decide)
  exact (roles_encoded_iff accepted rfl).mpr (by decide)

end

end Libdiscord
