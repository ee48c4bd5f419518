import Mathlib.Data.List.Sort
import Mathlib.Data.List.Perm.Subperm

namespace Library

section Newest

variable {α T : Type} [LinearOrder T] {key : α → T} {n : ℕ} {l : List α} {a b : α}

def newest (key : α → T) (n : ℕ) (l : List α) : List α := (l.insertionSort (fun a b => key b ≤ key a)).take n

def older (key : α → T) (n : ℕ) (l : List α) : List α := (l.insertionSort (fun a b => key b ≤ key a)).drop n

def later (key : α → T) (t : T) (l : List α) : List α := l.filter (fun a => t < key a)

theorem newest_append_older : (newest key n l ++ older key n l).Perm l := by
  rw [newest, older, List.take_append_drop]
  exact List.perm_insertionSort _ _

theorem newest_length_le : (newest key n l).length ≤ n := by
  rw [newest, List.length_take]
  exact min_le_left _ _

theorem mem_of_mem_newest (h : a ∈ newest key n l) : a ∈ l :=
  newest_append_older.subset (List.mem_append_left _ h)

theorem mem_newest_or_older (h : a ∈ l) : a ∈ newest key n l ∨ a ∈ older key n l :=
  List.mem_append.mp (newest_append_older.symm.subset h)

theorem mem_newest_of_length_le (h : a ∈ l) (hl : l.length ≤ n) : a ∈ newest key n l := by
  rw [newest, List.take_of_length_le (by simpa using hl)]
  exact (List.mem_insertionSort _).mpr h

theorem older_le_newest (ha : a ∈ older key n l) (hb : b ∈ newest key n l) : key a ≤ key b := by
  let sorted := l.insertionSort (fun a b => key b ≤ key a)
  have htotal : Std.Total (fun a b => key b ≤ key a) := ⟨fun a b => le_total (key b) (key a)⟩
  have htrans : IsTrans α (fun a b => key b ≤ key a) := ⟨fun _ _ _ h₁ h₂ => h₂.trans h₁⟩
  have hsorted : sorted.Pairwise (fun a b => key b ≤ key a) := List.pairwise_insertionSort _ l
  rw [← List.take_append_drop n sorted] at hsorted
  exact (List.pairwise_append.mp hsorted).2.2 b hb a ha

theorem newest_length_of_mem_older (h : a ∈ older key n l) : (newest key n l).length = n := by
  have hpos : 0 < (older key n l).length := List.length_pos_of_mem h
  rw [older, List.length_drop] at hpos
  rw [newest, List.length_take]
  omega

theorem later_length_lt (h : a ∈ newest key n l) : (later key (key a) l).length < n := by
  have hsplit : (later key (key a) l).length =
      (later key (key a) (newest key n l)).length + (later key (key a) (older key n l)).length := by
    rw [← List.length_append, later, later, later, ← List.filter_append]
    exact (newest_append_older.symm.filter _).length_eq
  have hold : later key (key a) (older key n l) = [] := by
    apply List.filter_eq_nil_iff.mpr
    intro b hb
    simpa using older_le_newest hb h
  have hnew : (later key (key a) (newest key n l)).length < (newest key n l).length :=
    List.length_filter_lt_length_iff_exists.mpr ⟨a, h, by simp⟩
  have hn : (newest key n l).length ≤ n := newest_length_le
  rw [hsplit, hold, List.length_nil]
  omega

theorem lt_of_mem_newest (hinj : ∀ a ∈ l, ∀ b ∈ l, key a = key b → a = b) (hl : a ∈ l) (ha : a ∉ newest key n l)
    (hb : b ∈ newest key n l) : key a < key b := by
  have hold : a ∈ older key n l := (mem_newest_or_older hl).resolve_left ha
  refine lt_of_le_of_ne (older_le_newest hold hb) (fun he => ha ?_)
  rwa [hinj a hl b (mem_of_mem_newest hb) he]

theorem newest_nodup (h : l.Nodup) : (newest key n l).Nodup :=
  (newest_append_older.nodup_iff.mpr h).of_append_left

theorem length_le_of_subset_newest {m : List α} (hm : m.Nodup) (h : ∀ a ∈ m, a ∈ newest key n l) : m.length ≤ n :=
  (List.subperm_of_subset hm h).length_le.trans newest_length_le

end Newest

end Library
