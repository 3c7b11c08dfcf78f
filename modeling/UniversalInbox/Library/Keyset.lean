import Mathlib.Data.List.Sort
import Mathlib.Data.Int.Order.Basic
import Mathlib.Tactic.Linarith

/-! Keyset pagination over a column that need not be unique. A listing is any
arrangement of the rows sorted by the column, so ties may come in any order and
may come in another order on another call. The results say which page
boundaries a cursor on that column survives. -/
namespace Keyset

variable {α κ : Type*} [LinearOrder κ] (key : α → κ)

def Sorted (l : List α) : Prop := l.Pairwise fun a b => key a ≤ key b

/-- A sorted arrangement of `rows`; equal keys are not ordered any further. -/
def IsListing (rows l : List α) : Prop := l.Perm rows ∧ Sorted key l

/-- The column as it reads in every listing. -/
def sortedKeys (rows : List α) : List κ := (rows.map key).insertionSort (· ≤ ·)

/-- Cutting `keys` after its first `i` entries separates no two equal keys. -/
def CleanCut (keys : List κ) (i : Nat) : Prop := ∀ a ∈ keys.take i, ∀ b ∈ keys.drop i, a < b

instance (keys : List κ) (i : Nat) : Decidable (CleanCut keys i) := by
  unfold CleanCut; infer_instance

/-- The rows a forward cursor still has in front of it. -/
def past (after : Option κ) (a : α) : Prop := ∀ c ∈ after, c < key a

instance (after : Option κ) : DecidablePred (past key after) := fun a =>
  match after with
  | none => .isTrue fun _ h => nomatch h
  | some c => decidable_of_iff (c < key a) ⟨fun h d hd => by cases hd; exact h, fun h => h c rfl⟩

def remaining (rows : List α) (after : Option κ) : List α := rows.filter (past key after)

def PageAfter (n : Nat) (rows : List α) (after : Option κ) (p : List α) : Prop :=
  ∃ l, IsListing key (remaining key rows after) l ∧ p = l.take n

def PageBefore (n : Nat) (rows : List α) (before : κ) (p : List α) : Prop :=
  ∃ l, IsListing key (rows.filter (key · < before)) l ∧ p = l.drop (l.length - n)

def PageAt (n : Nat) (rows : List α) (offset : Nat) (p : List α) : Prop :=
  ∃ l, IsListing key rows l ∧ p = (l.drop offset).take n

/-- Follow the last key of each page until a page is empty. -/
inductive Walk (n : Nat) (rows : List α) : Option κ → List α → Prop
  | stop {after} : PageAfter key n rows after [] → Walk n rows after []
  | next {after p a v} : PageAfter key n rows after p → a ∈ p.getLast? →
      Walk n rows (some (key a)) v → Walk n rows after (p ++ v)

/-- The page `p` stands at position `s` of some listing of `rows`. -/
def Window (rows : List α) (s : Nat) (p : List α) : Prop :=
  ∃ A B, IsListing key rows (A ++ p ++ B) ∧ A.length = s

variable {key}

section Listings
variable {rows l l' : List α}

theorem IsListing.length_eq (h : IsListing key rows l) : l.length = rows.length := h.1.length_eq

theorem IsListing.mem_iff (h : IsListing key rows l) {a : α} : a ∈ l ↔ a ∈ rows := h.1.mem_iff

theorem IsListing.sorted_keys (h : IsListing key rows l) : (l.map key).Pairwise (· ≤ ·) :=
  List.pairwise_map.mpr h.2

theorem IsListing.map_key (h : IsListing key rows l) : l.map key = sortedKeys key rows := by
  have hperm : (l.map key).Perm (sortedKeys key rows) :=
    (h.1.map key).trans (List.perm_insertionSort _ _).symm
  exact hperm.eq_of_pairwise (fun _ _ _ _ hab hba => le_antisymm hab hba) h.sorted_keys
    (List.pairwise_insertionSort _ _)

theorem isListing_insertionSort (r : α → α → Prop) [DecidableRel r]
    (hr : ∀ a b, r a b ↔ key a ≤ key b) (rows : List α) :
    IsListing key rows (rows.insertionSort r) := by
  have : Std.Total r := ⟨fun a b => by rw [hr, hr]; exact le_total (key a) (key b)⟩
  have : IsTrans α r := ⟨fun a b c hab hbc => by rw [hr] at *; exact le_trans hab hbc⟩
  exact ⟨List.perm_insertionSort _ _, (List.pairwise_insertionSort r _).imp fun h => (hr _ _).mp h⟩

/-- A descending sort is a listing read backwards. -/
theorem isListing_reverse_insertionSort (r : α → α → Prop) [DecidableRel r]
    (hr : ∀ a b, r a b ↔ key b ≤ key a) (rows : List α) :
    IsListing key rows (rows.insertionSort r).reverse := by
  have : Std.Total r := ⟨fun a b => by rw [hr, hr]; exact le_total (key b) (key a)⟩
  have : IsTrans α r := ⟨fun a b c hab hbc => by rw [hr] at *; exact le_trans hbc hab⟩
  refine ⟨(List.reverse_perm _).trans (List.perm_insertionSort _ _), ?_⟩
  exact List.pairwise_reverse.mpr ((List.pairwise_insertionSort r _).imp fun h => (hr _ _).mp h)

variable (key) in
theorem exists_listing (rows : List α) : ∃ l, IsListing key rows l :=
  ⟨_, isListing_insertionSort (fun a b => key a ≤ key b) (fun _ _ => Iff.rfl) rows⟩

theorem IsListing.filter (p : α → Prop) [DecidablePred p] (h : IsListing key rows l) :
    IsListing key (rows.filter p) (l.filter p) :=
  ⟨h.1.filter _, h.2.filter _⟩

theorem Sorted.append {l l' : List α} (h : Sorted key l) (h' : Sorted key l')
    (hle : ∀ a ∈ l, ∀ b ∈ l', key a ≤ key b) : Sorted key (l ++ l') :=
  List.pairwise_append.mpr ⟨h, h', hle⟩

/-- Rows below a bound listed first, the others after them, list all the rows. -/
theorem IsListing.append_split {p : α → Prop} [DecidablePred p]
    (hlow : IsListing key (rows.filter p) l) (hhigh : IsListing key (rows.filter fun a => ¬ p a) l')
    (hle : ∀ a, p a → ∀ b, ¬ p b → key a ≤ key b) : IsListing key rows (l ++ l') := by
  refine ⟨(hlow.1.append hhigh.1).trans ?_, hlow.2.append hhigh.2 ?_⟩
  · simpa using List.filter_append_perm (fun a => decide (p a)) rows
  · intro a ha b hb
    have hpa := (List.mem_filter.mp (hlow.mem_iff.mp ha)).2
    have hpb := (List.mem_filter.mp (hhigh.mem_iff.mp hb)).2
    exact hle a (by simpa using hpa) b (by simpa using hpb)

end Listings

section Cuts
variable {keys : List κ}

theorem cleanCut_zero : CleanCut keys 0 := by simp [CleanCut]

theorem cleanCut_add {i j : Nat} (h : CleanCut keys i) :
    CleanCut keys (i + j) ↔ CleanCut (keys.drop i) j := by
  unfold CleanCut at h ⊢
  rw [List.take_add, List.drop_drop]
  constructor
  · intro hcut a ha b hb
    exact hcut a (List.mem_append_right _ ha) b hb
  · intro hcut a ha b hb
    rcases List.mem_append.mp ha with ha | ha
    · exact h a ha b (List.mem_of_mem_drop (i := j) (by simpa [List.drop_drop] using hb))
    · exact hcut a ha b hb

/-- The cuts at all the multiples of `n`, peeled one page at a time. -/
theorem cleanCut_multiples {n : Nat} (h : CleanCut keys n) :
    (∀ k, CleanCut keys (k * n)) ↔ ∀ k, CleanCut (keys.drop n) (k * n) := by
  constructor
  · intro hall k
    have hk := hall (k + 1)
    rw [Nat.add_mul, Nat.one_mul, Nat.add_comm] at hk
    exact (cleanCut_add h).mp hk
  · intro hall k
    cases k with
    | zero => simpa using cleanCut_zero
    | succ k =>
      rw [Nat.add_mul, Nat.one_mul, Nat.add_comm]
      exact (cleanCut_add h).mpr (hall k)

end Cuts

section Forward
variable {n : Nat} {rows l v : List α} {after : Option κ} {a : α}

theorem le_last (hl : Sorted key l) (ha : a ∈ l.getLast?) {b : α} (hb : b ∈ l) : key b ≤ key a := by
  obtain ⟨front, rfl⟩ := List.getLast?_eq_some_iff.mp ha
  rcases List.mem_append.mp hb with hb | hb
  · exact (List.pairwise_append.mp hl).2.2 b hb a (by simp)
  · exact le_of_eq (by rw [List.mem_singleton.mp hb])

theorem remaining_some (ha : past key after a) :
    remaining key rows (some (key a)) =
      (remaining key rows after).filter (key a < key ·) := by
  unfold remaining
  rw [List.filter_filter]
  apply List.filter_congr
  intro b _
  by_cases hab : key a < key b
  · have hb : past key after b := fun c hc => lt_trans (ha c hc) hab
    have hb' : past key (some (key a)) b := fun c hc => by cases hc; exact hab
    simp [hab, hb, hb']
  · have hb' : ¬ past key (some (key a)) b := fun h => hab (h _ rfl)
    simp [hab, hb']

/-- What is left after a page: the rows behind it whose key is strictly past its last key. -/
theorem next_listing (hl : IsListing key (remaining key rows after) l)
    (ha : a ∈ (l.take n).getLast?) :
    IsListing key (remaining key rows (some (key a))) ((l.drop n).filter (key a < key ·)) := by
  have hmem : a ∈ l := List.mem_of_mem_take (List.mem_of_getLast? ha)
  have hpast : past key after a := by
    simpa using (List.mem_filter.mp (hl.mem_iff.mp hmem)).2
  have htake : (l.take n).filter (key a < key ·) = [] := by
    rw [List.filter_eq_nil_iff]
    intro b hb
    have := le_last (hl.2.sublist (List.take_sublist n l)) ha hb
    simpa using this
  have hsplit : l.filter (key a < key ·) = (l.drop n).filter (key a < key ·) := by
    conv_lhs => rw [← List.take_append_drop n l, List.filter_append, htake, List.nil_append]
  rw [remaining_some hpast, ← hsplit]
  exact hl.filter _

/-- Every page that is not empty brings the cursor closer to the end. -/
theorem remaining_next_le {p : List α} (hp : PageAfter key n rows after p) (ha : a ∈ p.getLast?) :
    p.length + (remaining key rows (some (key a))).length ≤ (remaining key rows after).length := by
  obtain ⟨l, hl, rfl⟩ := hp
  have hrest := (next_listing hl ha).length_eq
  have hfilter := List.length_filter_le (fun b => decide (key a < key b)) (l.drop n)
  have hsplit := congrArg List.length (List.take_append_drop n l)
  rw [List.length_append] at hsplit
  rw [← hl.length_eq]
  omega

theorem Walk.length_le (h : Walk key n rows after v) :
    v.length ≤ (remaining key rows after).length := by
  induction h with
  | stop _ => simp
  | next hp ha _ ih =>
    have := remaining_next_le hp ha
    rw [List.length_append]
    omega

theorem Walk.past (h : Walk key n rows after v) : ∀ b ∈ v, past key after b := by
  induction h with
  | stop _ => intro b hb; cases hb
  | @next after p a v hp ha _ ih =>
    obtain ⟨l, hl, rfl⟩ := hp
    have hfront : ∀ b ∈ l.take n, Keyset.past key after b := fun b hb => by
      simpa using (List.mem_filter.mp (hl.mem_iff.mp (List.mem_of_mem_take hb))).2
    intro b hb
    rcases List.mem_append.mp hb with hb | hb
    · exact hfront b hb
    · have hab : key a < key b := ih b hb _ rfl
      exact fun c hc => lt_trans (hfront a (List.mem_of_getLast? ha) c hc) hab

/-- A walk reads in listing order, whatever it skips. -/
theorem Walk.sorted (h : Walk key n rows after v) : Sorted key v := by
  induction h with
  | stop _ => exact List.Pairwise.nil
  | @next after p a v hp ha hv ih =>
    obtain ⟨l, hl, rfl⟩ := hp
    have hpage : Sorted key (l.take n) := hl.2.sublist (List.take_sublist n l)
    refine hpage.append ih fun b hb c hc => ?_
    exact le_of_lt (lt_of_le_of_lt (le_last hpage ha hb) (hv.past c hc _ rfl))

/-- A tie across the page's end: the cursor jumps over the tied rows behind it. -/
theorem cleanCut_of_length_le_filter (hl : Sorted key l) (ha : a ∈ (l.take n).getLast?)
    (hlen : (l.drop n).length ≤ ((l.drop n).filter (key a < key ·)).length) :
    (l.drop n).filter (key a < key ·) = l.drop n ∧ CleanCut (l.map key) n := by
  have hall : (l.drop n).filter (key a < key ·) = l.drop n :=
    List.filter_sublist.eq_of_length_le hlen
  refine ⟨hall, ?_⟩
  intro x hx y hy
  rw [← List.map_take] at hx
  rw [← List.map_drop] at hy
  obtain ⟨b, hb, rfl⟩ := List.mem_map.mp hx
  obtain ⟨c, hc, rfl⟩ := List.mem_map.mp hy
  have hac : key a < key c := by
    simpa using (List.filter_eq_self.mp hall) c hc
  exact lt_of_le_of_lt (le_last (hl.sublist (List.take_sublist n l)) ha hb) hac

theorem filter_drop_of_cleanCut (ha : a ∈ (l.take n).getLast?) (hcut : CleanCut (l.map key) n) :
    (l.drop n).filter (key a < key ·) = l.drop n := by
  rw [List.filter_eq_self]
  intro c hc
  have := hcut (key a) (by rw [← List.map_take]; exact List.mem_map_of_mem (List.mem_of_getLast? ha))
    (key c) (by rw [← List.map_drop]; exact List.mem_map_of_mem hc)
  simpa using this

/-- Following the cursor to the end visits every row exactly once if and only if no page
boundary falls between two rows of equal key. -/
theorem Walk.perm_iff_cleanCut (hn : 1 ≤ n) (h : Walk key n rows after v)
    (hl : IsListing key (remaining key rows after) l) :
    v.Perm (remaining key rows after) ↔ ∀ k, CleanCut (l.map key) (k * n) := by
  induction h generalizing l with
  | @stop after hp =>
    obtain ⟨l', hl', hnil⟩ := hp
    have hl'nil : l' = [] := by
      cases l' with
      | nil => rfl
      | cons b t => cases n with
        | zero => omega
        | succ n => simp at hnil
    have hempty : remaining key rows after = [] :=
      List.eq_nil_of_length_eq_zero (by rw [← hl'.length_eq, hl'nil]; rfl)
    have hlnil : l = [] :=
      List.eq_nil_of_length_eq_zero (by rw [hl.length_eq, hempty]; rfl)
    rw [hempty, hlnil]
    exact ⟨fun _ k => by simp [CleanCut], fun _ => List.Perm.nil⟩
  | @next after p a v hp ha hv ih =>
    obtain ⟨l', hl', rfl⟩ := hp
    rw [hl.map_key, ← hl'.map_key]
    have hrest := next_listing hl' ha
    constructor
    · intro hperm
      have hlen := hperm.length_eq
      rw [List.length_append, ← hl'.length_eq] at hlen
      have hsum := congrArg List.length (List.take_append_drop n l')
      rw [List.length_append] at hsum
      have hv' := hv.length_le
      rw [← hrest.length_eq] at hv'
      obtain ⟨hall, hcut⟩ := cleanCut_of_length_le_filter hl'.2 ha (by omega)
      rw [hall] at hrest
      have hboth : (l'.take n ++ v).Perm (l'.take n ++ l'.drop n) := by
        rw [List.take_append_drop]
        exact hperm.trans hl'.1.symm
      have hv'perm : v.Perm (l'.drop n) := (List.perm_append_left_iff _).mp hboth
      rw [cleanCut_multiples hcut, ← List.map_drop]
      exact (ih hrest).mp (hv'perm.trans hrest.1)
    · intro hcuts
      have hcut : CleanCut (l'.map key) n := by simpa using hcuts 1
      rw [filter_drop_of_cleanCut ha hcut] at hrest
      rw [cleanCut_multiples hcut, ← List.map_drop] at hcuts
      have hv'perm := ((ih hrest).mpr hcuts).trans hrest.1.symm
      have := hv'perm.append_left (l'.take n)
      rw [List.take_append_drop] at this
      exact this.trans hl'.1

end Forward

section Backward
variable {n s : Nat} {rows p q : List α} {a : α}

theorem PageAfter.window {after : Option κ} (h : PageAfter key n rows after p) :
    Window key rows (rows.length - (remaining key rows after).length) p := by
  obtain ⟨l, hl, rfl⟩ := h
  obtain ⟨low, hlow⟩ := exists_listing key (rows.filter fun b => ¬ past key after b)
  have hhigh : IsListing key (rows.filter fun b => ¬ ¬ past key after b) l := by
    simpa [remaining] using hl
  have hboth := hlow.append_split hhigh fun b hb c hc => by
    rw [not_not] at hc
    unfold past at hb
    push Not at hb
    obtain ⟨d, hd, hbd⟩ := hb
    exact le_of_lt (lt_of_le_of_lt hbd (hc d hd))
  refine ⟨low, l.drop n, ?_, ?_⟩
  · rw [List.append_assoc, List.take_append_drop]
    exact hboth
  · have hlen := hboth.length_eq
    rw [List.length_append, hl.length_eq] at hlen
    omega

theorem PageBefore.window {before : κ} (h : PageBefore key n rows before p) :
    Window key rows ((rows.filter (key · < before)).length - n) p := by
  obtain ⟨l, hl, rfl⟩ := h
  obtain ⟨high, hhigh⟩ := exists_listing key (rows.filter fun b => ¬ key b < before)
  have hboth := hl.append_split hhigh fun b hb c hc => le_of_lt (lt_of_lt_of_le hb (not_lt.mp hc))
  refine ⟨l.take (l.length - n), high, ?_, ?_⟩
  · rw [List.take_append_drop]
    exact hboth
  · rw [List.length_take, hl.length_eq]
    omega

theorem PageAt.window {offset : Nat} (h : PageAt key n rows offset p) (hp : p ≠ []) :
    Window key rows offset p := by
  obtain ⟨l, hl, rfl⟩ := h
  refine ⟨l.take offset, (l.drop offset).drop n, ?_, ?_⟩
  · rw [List.append_assoc, List.take_append_drop, List.take_append_drop]
    exact hl
  · have : offset < l.length := by
      by_contra hge
      exact hp (by rw [List.drop_eq_nil_of_le (not_lt.mp hge)]; simp)
    rw [List.length_take]
    omega

/-- Rows strictly below the first key of a page are the ones in front of it, when no tie
crosses the page's start. -/
theorem filter_lt_head {A B : List α} (hl : IsListing key rows (A ++ (a :: B)))
    (hcut : CleanCut ((A ++ (a :: B)).map key) A.length) :
    (rows.filter (key · < key a)).Perm A := by
  have hA : A.filter (key · < key a) = A := by
    rw [List.filter_eq_self]
    intro b hb
    have := hcut (key b) (by simp [List.mem_map_of_mem hb]) (key a) (by simp)
    simpa using this
  have hB : (a :: B).filter (key · < key a) = [] := by
    rw [List.filter_eq_nil_iff]
    intro b hb
    have hsorted := (List.pairwise_append.mp hl.2).2.1
    rcases List.mem_cons.mp hb with rfl | hb
    · simp
    · simpa using (List.pairwise_cons.mp hsorted).1 b hb
  have := (hl.1.filter (fun b => decide (key b < key a))).symm
  rwa [List.filter_append, hA, hB, List.append_nil] at this

/-- A page that immediately precedes the row `a` and ends below it leaves no tie at `a`. -/
theorem cleanCut_of_previous {front rest : List α} {z : α}
    (hl : IsListing key rows (front ++ [z] ++ a :: rest)) (hza : key z < key a) :
    CleanCut (sortedKeys key rows) (front ++ [z]).length := by
  have hsorted : Sorted key (front ++ [z] ++ a :: rest) := hl.2
  rw [← hl.map_key, List.map_append]
  intro x hx y hy
  rw [List.take_left' (List.length_map _)] at hx
  rw [List.drop_left' (List.length_map _)] at hy
  obtain ⟨b, hb, rfl⟩ := List.mem_map.mp hx
  obtain ⟨c, hc, rfl⟩ := List.mem_map.mp hy
  have hbz : key b ≤ key z :=
    le_last (List.pairwise_append.mp hsorted).1 (by simp) hb
  have hac : key a ≤ key c := by
    rcases List.mem_cons.mp hc with rfl | hc
    · exact le_refl _
    · exact (List.pairwise_cons.mp (List.pairwise_append.mp hsorted).2.1).1 c hc
  exact lt_of_le_of_lt hbz (lt_of_lt_of_le hza hac)

/-- The page read before `p` is the rows immediately preceding it if and only if no tie
crosses the start of `p`. -/
theorem previous_iff_cleanCut (hn : 1 ≤ n) (hp : Window key rows s p) (ha : a ∈ p.head?)
    (hq : PageBefore key n rows (key a) q) :
    (∃ A B, IsListing key rows (A ++ q ++ p ++ B) ∧ A.length + q.length = s ∧
      q.length = min n s) ↔ CleanCut (sortedKeys key rows) s := by
  obtain ⟨A, B, hl, hs⟩ := hp
  obtain ⟨tail, rfl⟩ := List.head?_eq_some_iff.mp ha
  obtain ⟨l, hlow, rfl⟩ := hq
  constructor
  · rintro ⟨A', B', hl', hs', hlen⟩
    rcases Nat.eq_zero_or_pos s with rfl | hpos
    · exact cleanCut_zero
    -- the previous page is not empty, so its last row stands between the two sides of the cut
    have hne : l.drop (l.length - n) ≠ [] := by
      intro hnil
      rw [hnil, List.length_nil] at hlen
      omega
    obtain ⟨z, hz⟩ : ∃ z, z ∈ (l.drop (l.length - n)).getLast? :=
      ⟨_, List.getLast?_eq_some_getLast hne⟩
    have hza : key z < key a := by
      have hzl := hlow.mem_iff.mp (List.mem_of_mem_drop (List.mem_of_getLast? hz))
      simpa using (List.mem_filter.mp hzl).2
    obtain ⟨q, hqz⟩ := List.getLast?_eq_some_iff.mp hz
    rw [hqz] at hl' hs'
    have hfront : (A' ++ q ++ [z]).length = s := by
      rw [List.append_assoc, List.length_append]
      exact hs'
    rw [← hfront]
    have hprevious : IsListing key rows (A' ++ q ++ [z] ++ a :: (tail ++ B')) := by
      simpa [List.append_assoc] using hl'
    exact cleanCut_of_previous hprevious hza
  · intro hcut
    rw [← hl.map_key] at hcut
    have hl' : IsListing key rows (A ++ (a :: (tail ++ B))) := by
      simpa [List.append_assoc] using hl
    have hlA : l.Perm A := hlow.1.trans (filter_lt_head hl' (by
      rw [hs]; simpa [List.append_assoc] using hcut))
    have hlen : l.length = s := hlA.length_eq.trans hs
    refine ⟨l.take (l.length - n), B, ?_, ?_, ?_⟩
    · rw [List.take_append_drop, List.append_assoc]
      refine ⟨(hlA.append_right _).trans hl'.1,
        hlow.2.append (List.pairwise_append.mp hl'.2).2.1 ?_⟩
      intro b hb c hc
      have hba : key b < key a := by
        simpa using (List.mem_filter.mp (hlow.mem_iff.mp hb)).2
      rcases List.mem_cons.mp hc with rfl | hc
      · exact le_of_lt hba
      · exact le_trans (le_of_lt hba)
          ((List.pairwise_cons.mp (List.pairwise_append.mp hl'.2).2.1).1 c hc)
    · rw [List.length_take, List.length_drop]; omega
    · rw [List.length_drop]; omega

end Backward

end Keyset
