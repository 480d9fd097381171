import Mathlib.Data.List.Perm.Basic
import FluentBuilders.Proofs.Scan

/-!
Rounds over the same declarations in two orders.

1. The candidates of a round, told block by block: names of different blocks are different.
2. Declarations whose builders have different modules are judged each by itself.
-/

namespace FluentBuilders

/-! ## 1. Candidates -/

section Blocks

variable {α β : Type}

/-- Where only one value can be found, it is found in every order. -/
theorem findSome?_perm {f : α → Option β} {l l' : List α} (h : l'.Perm l)
    (hone : ∀ a ∈ l, ∀ b ∈ l, ∀ x y, f a = some x → f b = some y → x = y) :
    l'.findSome? f = l.findSome? f := by
  have hspec : ∀ {l : List α} {x : β}, l.findSome? f = some x → ∃ a ∈ l, f a = some x :=
    List.exists_of_findSome?_eq_some
  cases hl : l.findSome? f with
  | none =>
    rw [List.findSome?_eq_none_iff] at hl ⊢
    exact fun a ha => hl a (h.mem_iff.mp ha)
  | some x =>
    obtain ⟨a, ha, hax⟩ := hspec hl
    cases hl' : l'.findSome? f with
    | none =>
      rw [List.findSome?_eq_none_iff] at hl'
      rw [hl' a (h.mem_iff.mpr ha)] at hax
      cases hax
    | some y =>
      obtain ⟨b, hb, hby⟩ := hspec hl'
      rw [hone b (h.mem_iff.mp hb) a ha y x hby hax]

/-- A declaration is a candidate if it is the first of its name. -/
theorem mem_firstOfEach {seen : List String} {ds : List Declaration} {d : Declaration} :
    d ∈ firstOfEach seen ds ↔ d.qualifiedName ∉ seen ∧
      ds.find? (fun d' => d'.qualifiedName == d.qualifiedName) = some d := by
  induction ds generalizing seen with
  | nil => simp [firstOfEach]
  | cons e rest ih =>
    unfold firstOfEach
    rw [List.find?_cons]
    by_cases hname : e.qualifiedName = d.qualifiedName
    · rw [beq_iff_eq.mpr hname]
      split
      · next hseen =>
        rw [ih]
        have hseen : d.qualifiedName ∈ seen := by simpa [hname] using hseen
        simp [hseen]
      · next hseen =>
        have hseen : d.qualifiedName ∉ seen := by simpa [hname] using hseen
        rw [List.mem_cons, ih]
        simp [hname, hseen, eq_comm]
    · rw [beq_eq_false_iff_ne.mpr hname]
      have hne : d ≠ e := fun heq => hname (heq ▸ rfl)
      split
      · rw [ih]
      · rw [List.mem_cons, ih]
        simp [hne, Ne.symm hname]

/-- Each name is in one block. -/
def NamesApart (blocks : List (List Declaration)) : Prop :=
  ∀ b ∈ blocks, ∀ b' ∈ blocks, ∀ d ∈ b, ∀ d' ∈ b', d.qualifiedName = d'.qualifiedName → b = b'

/-- The first declarations of each name are the same in every order of the blocks. -/
theorem firstOfEach_perm {blocks blocks' : List (List Declaration)} (h : blocks'.Perm blocks)
    (hapart : NamesApart blocks) :
    (firstOfEach [] blocks'.flatten).Perm (firstOfEach [] blocks.flatten) := by
  have hnodup : ∀ ds, (firstOfEach [] ds).Nodup := fun ds => .of_map _ (nodup_firstOfEach [] ds)
  refine (List.perm_ext_iff_of_nodup (hnodup _) (hnodup _)).mpr fun d => ?_
  rw [mem_firstOfEach, mem_firstOfEach, List.find?_flatten, List.find?_flatten,
    findSome?_perm h fun b hb b' hb' x y hx hy => ?_]
  have hname : ∀ {b : List Declaration} {x : Declaration},
      b.find? (fun d' => d'.qualifiedName == d.qualifiedName) = some x →
        x ∈ b ∧ x.qualifiedName = d.qualifiedName := fun h =>
    ⟨List.mem_of_find?_eq_some h, by simpa using List.find?_some h⟩
  have hsame := hapart b hb b' hb' x (hname hx).1 y (hname hy).1
    ((hname hx).2.trans (hname hy).2.symm)
  rw [hsame] at hx
  exact Option.some.inj (hx.symm.trans hy)

end Blocks

/-! ## 2. Rounds without collisions -/

section Apart

variable {r : Resolver} {ds ds' : List Declaration}

/-- The judgement on a declaration where no module is claimed. -/
def judgeAlone (r : Resolver) (d : Declaration) : Outcome × Option Artifact := judge r .empty d

/-- A claim on other modules changes no judgement. -/
theorem judge_eq_judgeAlone {claimed : Table String} {d : Declaration}
    (h : ∀ a, (judgeAlone r d).2 = some a → claimed.get? a.module = none) :
    judge r claimed d = judgeAlone r d := by
  have hgrant : ∀ a, grant .empty d a = (⟨d, .generated, [], some a.module, none⟩, some a) :=
    fun a => rfl
  unfold judgeAlone judge at h ⊢
  split
  · rfl
  · rfl
  · rfl
  · next hgate =>
    rw [hgate] at h
    dsimp only at h ⊢
    split
    · rfl
    · next a hgenerate =>
      rw [hgenerate] at h
      have hfree := h a (congrArg Prod.snd (hgrant a))
      rw [hgrant]
      unfold grant
      rw [hfree]

/-- Declarations of different names get builders in different modules. -/
def BuildersApart (r : Resolver) (ds : List Declaration) : Prop :=
  ∀ d ∈ ds, ∀ d' ∈ ds, ∀ a a', (judgeAlone r d).2 = some a → (judgeAlone r d').2 = some a' →
    a.module = a'.module → d.qualifiedName = d'.qualifiedName

theorem BuildersApart.perm (h : BuildersApart r ds) (hperm : ds'.Perm ds) : BuildersApart r ds' :=
  fun d hd d' hd' => h d (hperm.mem_iff.mp hd) d' (hperm.mem_iff.mp hd')

/-- A round that nobody cuts short, over declarations whose builders have different modules, judges
each of them by itself. -/
theorem Scan.through_apart {signal : List Declaration → Bool} (hsignal : ∀ done, signal done = false)
    (done : List Declaration) {claimed : Table String} (hnames : (ds.map (·.qualifiedName)).Nodup)
    (hapart : BuildersApart r ds)
    (hfree : ∀ d ∈ ds, ∀ a, (judgeAlone r d).2 = some a → claimed.get? a.module = none) :
    (through r signal done claimed ds).outcomes = ds.map (fun d => (judgeAlone r d).1) ∧
      (through r signal done claimed ds).artifacts = ds.filterMap fun d => (judgeAlone r d).2 := by
  induction ds generalizing done claimed with
  | nil => exact ⟨rfl, rfl⟩
  | cons d rest ih =>
    rw [List.map_cons, List.nodup_cons] at hnames
    have hrest : BuildersApart r rest := fun e he e' he' =>
      hapart e (List.mem_cons_of_mem _ he) e' (List.mem_cons_of_mem _ he')
    unfold through
    rw [hsignal, if_neg Bool.false_ne_true, judge_eq_judgeAlone (hfree d List.mem_cons_self)]
    dsimp only
    cases hjudged : (judgeAlone r d).2 with
    | none =>
      obtain ⟨houtcomes, hartifacts⟩ := ih (done ++ [d]) hnames.2 hrest fun e he =>
        hfree e (List.mem_cons_of_mem _ he)
      rw [List.filterMap_cons_none (f := fun d => (judgeAlone r d).2) hjudged]
      exact ⟨congrArg (_ :: ·) houtcomes, hartifacts⟩
    | some a =>
      -- no declaration behind this one gets a builder in its module
      have hclaimed : ∀ e ∈ rest, ∀ b, (judgeAlone r e).2 = some b →
          (claimed.insert a.module d.qualifiedName).get? b.module = none := by
        intro e he b hb
        rw [Table.get?_insert, if_neg fun hsame => ?_]
        · exact hfree e (List.mem_cons_of_mem _ he) b hb
        · have hname := hapart d List.mem_cons_self e (List.mem_cons_of_mem _ he) a b hjudged hb hsame
          exact hnames.1 (hname ▸ List.mem_map_of_mem he)
      obtain ⟨houtcomes, hartifacts⟩ := ih (done ++ [d]) hnames.2 hrest hclaimed
      rw [List.filterMap_cons_some (f := fun d => (judgeAlone r d).2) hjudged]
      exact ⟨congrArg (_ :: ·) houtcomes, congrArg (a :: ·) hartifacts⟩

/-- Two rounds without collisions over the same declarations, in two orders, give the same. -/
theorem Scan.through_perm {signal signal' : List Declaration → Bool}
    (hsignal : ∀ done, signal done = false) (hsignal' : ∀ done, signal' done = false)
    (hnames : (ds.map (·.qualifiedName)).Nodup) (hapart : BuildersApart r ds)
    (hperm : ds'.Perm ds) :
    (through r signal' [] .empty ds').outcomes.Perm (through r signal [] .empty ds).outcomes ∧
      (through r signal' [] .empty ds').artifacts.Perm (through r signal [] .empty ds).artifacts ∧
      (through r signal' [] .empty ds').pending.Perm (through r signal [] .empty ds).pending := by
  have hnames' : (ds'.map (·.qualifiedName)).Nodup := (hperm.map _).nodup_iff.mpr hnames
  have hfree : ∀ ds : List Declaration, ∀ d ∈ ds, ∀ a, (judgeAlone r d).2 = some a →
      (Table.empty : Table String).get? a.module = none := fun _ _ _ _ _ => rfl
  obtain ⟨houtcomes, hartifacts⟩ := through_apart hsignal [] hnames hapart (hfree ds)
  obtain ⟨houtcomes', hartifacts'⟩ :=
    through_apart hsignal' [] hnames' (hapart.perm hperm) (hfree ds')
  have houtcome : (through r signal' [] .empty ds').outcomes.Perm
      (through r signal [] .empty ds).outcomes := by
    rw [houtcomes, houtcomes']
    exact hperm.map _
  refine ⟨houtcome, ?_, ?_⟩
  · rw [hartifacts, hartifacts']
    exact hperm.filterMap _
  · rw [(through_accounts ..).pending, (through_accounts ..).pending]
    exact (houtcome.filter _).map _

end Apart

end FluentBuilders
