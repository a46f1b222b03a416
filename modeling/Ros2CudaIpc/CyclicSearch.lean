import Mathlib.Data.List.Chain
import Mathlib.Tactic.ByContra

/-!
# Searching a ring of slots

A search over numbered slots begins at a cursor and goes round once. Each slot has a
distance from the cursor. When every service goes to the first slot that can be
served and leaves the cursor behind it, a slot which can be served at each of as many
successful services as there are slots is served by one of them: each service of
another slot brings the cursor nearer.

The cursor is any number; slots are counted below their number of slots.
-/

namespace Ros2CudaIpc.CyclicSearch

/-- The slot at a distance from the cursor, counted round the ring. The cursor itself may lie
beyond the number of slots. -/
def slot (count cursor distance : Nat) : Nat := (cursor + distance) % count

/-- How far ahead of the cursor a slot lies, less than one round. It is zero for the slot the
cursor points to. -/
def distance (count cursor index : Nat) : Nat := (index + count - cursor % count) % count

variable {count cursor index : Nat}

/-- Below twice the count the remainder is the number or the number less the count. -/
theorem mod_cases {number : Nat} (below : number < 2 * count) :
    number % count = if number < count then number else number - count := by
  split
  · next small => exact Nat.mod_eq_of_lt small
  · next large => rw [Nat.mod_eq_sub_mod (by omega), Nat.mod_eq_of_lt (by omega)]

/-- A slot ahead of the cursor's, or one behind it which is reached going round. -/
theorem distance_eq (inside : index < count) (cursor : Nat) : distance count cursor index =
    if cursor % count ≤ index then index - cursor % count
    else index + count - cursor % count := by
  have start : cursor % count < count := Nat.mod_lt _ (by omega)
  rw [distance, mod_cases (by omega)]
  split <;> split <;> omega

/-- The slot at a distance of less than one round, without a remainder of the sum: the sum wraps
at most once. -/
theorem slot_eq {ahead : Nat} (inside : ahead < count) (cursor : Nat) :
    slot count cursor ahead = if cursor % count + ahead < count then cursor % count + ahead
      else cursor % count + ahead - count := by
  have start : cursor % count < count := Nat.mod_lt _ (by omega)
  rw [slot, Nat.add_mod, Nat.mod_eq_of_lt inside, mod_cases (by omega)]

/-- Every distance from every cursor leads to one of the slots, as long as there is a slot at all.
-/
theorem slot_lt (inside : index < count) (cursor ahead : Nat) : slot count cursor ahead < count :=
  Nat.mod_lt _ (by omega)

/-- Every slot lies less than one round ahead of the cursor, as long as there is a slot at all. -/
theorem distance_lt (inside : index < count) (cursor : Nat) :
    distance count cursor index < count :=
  Nat.mod_lt _ (by omega)

/-- A slot is found at its distance from the cursor, so a search of one round visits every slot. -/
theorem slot_distance (inside : index < count) (cursor : Nat) :
    slot count cursor (distance count cursor index) = index := by
  have start : cursor % count < count := Nat.mod_lt _ (by omega)
  rw [slot_eq (distance_lt inside cursor), distance_eq inside]
  split <;> split <;> omega

/-- A slot is found at its distance only, so a search of one round visits no slot twice. -/
theorem distance_slot {ahead : Nat} (inside : ahead < count) (cursor : Nat) :
    distance count cursor (slot count cursor ahead) = ahead := by
  have start : cursor % count < count := Nat.mod_lt _ (by omega)
  rw [distance_eq (slot_lt inside cursor ahead), slot_eq inside]
  split <;> split <;> omega

/-- With the cursor left behind a nearer slot, a slot is nearer than before. -/
theorem distance_behind {served : Nat} (inside : index < count) (servedInside : served < count)
    (nearer : distance count cursor served < distance count cursor index) :
    distance count ((served + 1) % count) index < distance count cursor index := by
  have start : cursor % count < count := Nat.mod_lt _ (by omega)
  rw [distance_eq inside, distance_eq servedInside] at nearer
  rw [distance_eq inside, distance_eq inside, Nat.mod_mod, mod_cases (by omega)]
  split at nearer <;> split at nearer <;> repeat' split
  all_goals omega

/-- A service as the ring sees it: the cursor it begins at, the slot it serves, if any,
and the cursor it leaves. -/
structure Service where
  cursor : Nat
  served : Option Nat
  left : Nat

/-- The service serves no slot behind the one at an index and leaves the cursor behind
the slot it serves. One which serves nothing leaves the cursor. -/
structure Service.Fair (count index : Nat) (service : Service) : Prop where
  inside : ∀ slot, service.served = some slot → slot < count
  first : ∀ slot, service.served = some slot →
    distance count service.cursor slot ≤ distance count service.cursor index
  moved : ∀ slot, service.served = some slot → service.left = (slot + 1) % count
  stayed : service.served = none → service.left = service.cursor

variable {service : Service}

/-- A service of another slot brings the cursor nearer. The served slot lies before the one in
question, and the cursor is left behind it. -/
theorem Service.Fair.nearer (fair : service.Fair count index) (inside : index < count)
    (other : service.served ≠ some index) :
    service.served.toList.length + distance count service.left index ≤
      distance count service.cursor index := by
  cases served : service.served with
  | none => simp [fair.stayed served]
  | some slot =>
    have within := fair.inside slot served
    have apart : distance count service.cursor slot ≠ distance count service.cursor index := by
      intro same
      refine other ?_
      rw [served, ← slot_distance within service.cursor, same, slot_distance inside]
    have ahead := fair.first slot served
    have behind := distance_behind inside within (Nat.lt_of_le_of_ne ahead apart)
    rw [fair.moved slot served]
    simp only [Option.toList_some, List.length_cons, List.length_nil]
    omega

/-- While a slot is not served, no more services succeed than it is ahead of the first
one's cursor. -/
theorem served_le_distance {later : List Service} (inside : index < count)
    (follow : (service :: later).IsChain fun earlier next => next.cursor = earlier.left)
    (fair : ∀ each ∈ service :: later, each.Fair count index)
    (other : ∀ each ∈ service :: later, each.served ≠ some index) :
    ((service :: later).filterMap Service.served).length ≤
      distance count service.cursor index := by
  induction later generalizing service with
  | nil =>
    have nearer := (fair service (by simp)).nearer inside (other service (by simp))
    cases served : service.served with
    | none => simp [served]
    | some slot =>
      simp only [served, Option.toList_some, List.length_cons, List.length_nil] at nearer
      simp only [List.filterMap_cons, served, List.filterMap_nil, List.length_cons,
        List.length_nil]
      omega
  | cons next later inductionHypothesis =>
    obtain ⟨same, follows⟩ := List.isChain_cons_cons.mp follow
    have nearer := (fair service (by simp)).nearer inside (other service (by simp))
    have rest := inductionHypothesis follows
      (fun each member => fair each (List.mem_cons_of_mem _ member))
      (fun each member => other each (List.mem_cons_of_mem _ member))
    rw [same] at rest
    rw [List.filterMap_cons]
    cases served : service.served with
    | none =>
      simp only [served, Option.toList_none, List.length_nil] at nearer ⊢
      omega
    | some slot =>
      simp only [served, Option.toList_some, List.length_cons, List.length_nil] at nearer ⊢
      omega

/-- As many successful services as there are slots serve every slot which none of them
passes over. -/
theorem served_eventually {services : List Service} (inside : index < count)
    (follow : services.IsChain fun earlier next => next.cursor = earlier.left)
    (fair : ∀ service ∈ services, service.Fair count index)
    (enough : count ≤ (services.filterMap Service.served).length) :
    ∃ service ∈ services, service.served = some index := by
  by_contra never
  have other : ∀ service ∈ services, service.served ≠ some index :=
    fun service member served => never ⟨service, member, served⟩
  cases services with
  | nil =>
    simp only [List.filterMap_nil, List.length_nil] at enough
    omega
  | cons service later =>
    have few := served_le_distance inside follow fair other
    have near := distance_lt inside service.cursor
    omega

end Ros2CudaIpc.CyclicSearch
