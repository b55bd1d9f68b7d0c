import Mathlib.Data.List.Basic
/-!
# LibJson — JSON values, and where their keys are

`Json.keys` lists every key of a value with its path, depth first and in document order; `KeyAt` says where a key is
without saying in what order, and the two agree (`mem_keys_iff`).
-/
namespace DataOps

/-- A JSON value over keys `κ` and scalars `σ`; the members of an object are in document order. -/
inductive Json (κ σ : Type)
  | scalar (value : σ)
  | array (items : List (Json κ σ))
  | object (members : List (κ × Json κ σ))

namespace Json

/-- One step down a value. -/
inductive Step (κ : Type)
  | key (k : κ)
  | index (i : Nat)
deriving DecidableEq, Repr

abbrev Path (κ : Type) := List (Step κ)

section
variable {κ σ : Type}

/-- A key, and the path down to it. -/
abbrev Located (κ : Type) := Path κ × κ

def Located.under (step : Step κ) (e : Located κ) : Located κ := (step :: e.1, e.2)

mutual

/-- Every key of a value, depth first and in document order. -/
def keys : Json κ σ → List (Located κ)
  | .scalar _       => []
  | .array items    => itemKeys 0 items
  | .object members => memberKeys members

/-- The keys of the items of an array, the first of which has the index `i`. -/
def itemKeys : Nat → List (Json κ σ) → List (Located κ)
  | _, []          => []
  | i, v :: items  => (keys v).map (Located.under (.index i)) ++ itemKeys (i + 1) items

/-- The keys of the members of an object; a key comes before those of its value. -/
def memberKeys : List (κ × Json κ σ) → List (Located κ)
  | []                => []
  | (k, v) :: members => ([.key k], k) :: ((keys v).map (Located.under (.key k)) ++ memberKeys members)

end

/-- The key `k` is at the end of the path `p`. -/
inductive KeyAt : Json κ σ → Path κ → κ → Prop
  | here {members : List (κ × Json κ σ)} {k : κ} {v : Json κ σ} (h : (k, v) ∈ members) :
    KeyAt (.object members) [.key k] k
  | member {members : List (κ × Json κ σ)} {k k' : κ} {v : Json κ σ} {p : Path κ}
    (h : (k, v) ∈ members) (hp : KeyAt v p k') :
      KeyAt (.object members) (.key k :: p) k'
  | item {items : List (Json κ σ)} {i : Nat} {v : Json κ σ} {p : Path κ} {k : κ}
    (h : items[i]? = some v) (hp : KeyAt v p k) :
      KeyAt (.array items) (.index i :: p) k

theorem mem_under {l : List (Located κ)} {step : Step κ} {p : Path κ} {k : κ} :
    (p, k) ∈ l.map (Located.under step) ↔ ∃ q, p = step :: q ∧ (q, k) ∈ l := by
  rw [List.mem_map]
  constructor
  · rintro ⟨⟨q, k'⟩, hmem, heq⟩
    cases heq
    exact ⟨q, rfl, hmem⟩
  · rintro ⟨q, rfl, hmem⟩
    exact ⟨(q, k), hmem, rfl⟩

mutual

/-- **The list holds exactly the keys of the value.** -/
theorem mem_keys_iff : ∀ (v : Json κ σ) (p : Path κ) (k : κ), (p, k) ∈ keys v ↔ KeyAt v p k
  | .scalar _, p, k => by
    rw [keys]
    exact ⟨fun h => absurd h List.not_mem_nil, fun h => by cases h⟩
  | .array items, p, k => by
    rw [keys, mem_itemKeys_iff items 0 p k]
    constructor
    · rintro ⟨j, v, q, hv, rfl, hq⟩
      rw [Nat.zero_add]
      exact .item hv hq
    · intro h
      cases h with
      | item hv hq => exact ⟨_, _, _, hv, by rw [Nat.zero_add], hq⟩
  | .object members, p, k => by
    rw [keys, mem_memberKeys_iff members p k]
    constructor
    · rintro (⟨v, hv, rfl⟩ | ⟨k', v, q, hv, rfl, hq⟩)
      · exact .here hv
      · exact .member hv hq
    · intro h
      cases h with
      | here hv => exact .inl ⟨_, hv, rfl⟩
      | member hv hq => exact .inr ⟨_, _, _, hv, rfl, hq⟩

theorem mem_itemKeys_iff : ∀ (items : List (Json κ σ)) (i : Nat) (p : Path κ) (k : κ), (p, k) ∈ itemKeys i items ↔
    ∃ j v q, items[j]? = some v ∧ p = .index (i + j) :: q ∧ KeyAt v q k
  | [], i, p, k => by
    rw [itemKeys]
    exact ⟨fun h => absurd h List.not_mem_nil, fun ⟨j, v, q, hv, _⟩ => by cases hv⟩
  | w :: items, i, p, k => by
    rw [itemKeys, List.mem_append, mem_under, mem_itemKeys_iff items (i + 1) p k]
    constructor
    · rintro (⟨q, rfl, hq⟩ | ⟨j, v, q, hv, rfl, hq⟩)
      · exact ⟨0, w, q, rfl, rfl, (mem_keys_iff w q k).1 hq⟩
      · exact ⟨j + 1, v, q, hv, by rw [Nat.add_right_comm, Nat.add_assoc], hq⟩
    · rintro ⟨j, v, q, hv, rfl, hq⟩
      cases j with
      | zero =>
        cases hv
        exact .inl ⟨q, rfl, (mem_keys_iff w q k).2 hq⟩
      | succ j => exact .inr ⟨j, v, q, hv, by rw [Nat.add_right_comm, Nat.add_assoc], hq⟩

theorem mem_memberKeys_iff : ∀ (members : List (κ × Json κ σ)) (p : Path κ) (k : κ), (p, k) ∈ memberKeys members ↔
    (∃ v, (k, v) ∈ members ∧ p = [.key k]) ∨ ∃ k' v q, (k', v) ∈ members ∧ p = .key k' :: q ∧ KeyAt v q k
  | [], p, k => by
    rw [memberKeys]
    refine ⟨fun h => absurd h List.not_mem_nil, ?_⟩
    rintro (⟨v, hv, -⟩ | ⟨k', v, q, hv, -⟩)
    · exact absurd hv List.not_mem_nil
    · exact absurd hv List.not_mem_nil
  | (k₀, w) :: members, p, k => by
    rw [memberKeys, List.mem_cons, List.mem_append, mem_under, mem_memberKeys_iff members p k]
    constructor
    · rintro (heq | ⟨q, rfl, hq⟩ | ⟨v, hv, rfl⟩ | ⟨k', v, q, hv, rfl, hq⟩)
      · cases heq
        exact .inl ⟨w, List.mem_cons_self, rfl⟩
      · exact .inr ⟨k₀, w, q, List.mem_cons_self, rfl, (mem_keys_iff w q k).1 hq⟩
      · exact .inl ⟨v, List.mem_cons_of_mem _ hv, rfl⟩
      · exact .inr ⟨k', v, q, List.mem_cons_of_mem _ hv, rfl, hq⟩
    · rintro (⟨v, hv, rfl⟩ | ⟨k', v, q, hv, rfl, hq⟩)
      · rcases List.mem_cons.1 hv with heq | hv
        · cases heq
          exact .inl rfl
        · exact .inr (.inr (.inl ⟨v, hv, rfl⟩))
      · rcases List.mem_cons.1 hv with heq | hv
        · cases heq
          exact .inr (.inl ⟨q, rfl, (mem_keys_iff w q k).2 hq⟩)
        · exact .inr (.inr (.inr ⟨k', v, q, hv, rfl, hq⟩))

end

/-- A path ends with its key. -/
theorem KeyAt.exists_eq_concat {v : Json κ σ} {p : Path κ} {k : κ} (h : KeyAt v p k) : ∃ q, p = q ++ [.key k] := by
  induction h with
  | here _ => exact ⟨[], rfl⟩
  | @member _ k' _ _ _ _ _ ih =>
    obtain ⟨q, rfl⟩ := ih
    exact ⟨.key k' :: q, rfl⟩
  | @item _ i _ _ _ _ _ ih =>
    obtain ⟨q, rfl⟩ := ih
    exact ⟨.index i :: q, rfl⟩

theorem memberKeys_append (members : List (κ × Json κ σ)) : ∀ before : List (κ × Json κ σ),
    memberKeys (before ++ members) = memberKeys before ++ memberKeys members
  | []               => rfl
  | (k, v) :: before => by
    rw [List.cons_append, memberKeys, memberKeys, memberKeys_append members before, List.cons_append, List.append_assoc]

end

end Json
end DataOps
