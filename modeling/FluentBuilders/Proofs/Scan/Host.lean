import FluentBuilders.Proofs.Scan.Order

/-!
A round over a host that may change with every question: it can answer differently, fail in one call
and not in the next, and set the signal on its way.

1. `Host`: the three questions as steps of a world, and a round that asks them, in the order in which
   they are asked.
2. `Resolver.host`: a resolver as a host. What a round over it gives is `Scan.run`.
3. `Host.through_resolver`: a round asks about a declaration at most once, so that each round over a
   host is a round over some resolver.
4. `Host.through_cut`: once the signal is seen nothing is asked any more.
5. `Scan.Partitions`; `Host.scan_partitions` for all of them at once.
-/

namespace FluentBuilders

/-! ## 1. Hosts -/

/-- What generation asks of whoever knows the sources, where each answer may depend on all that was
asked before and leaves a world behind. -/
structure Host (σ : Type) where
  isReady : Declaration → σ → Except Failure Bool × σ
  properties : Declaration → σ → Except Failure (List Property) × σ
  originatingFiles : Declaration → σ → Except Failure (List FileHandle) × σ

namespace Host

variable {σ : Type} (h : Host σ)

/-- The gate. An invalid declaration is not asked about. -/
def gate (d : Declaration) (w : σ) : Except Failure (Readiness × List String) × σ :=
  if d.state = .invalid then
    (.ok (.invalid,
      if d.invalidReasons.isEmpty then [Reason.invalidDeclaration] else d.invalidReasons), w)
  else
    let asked := h.isReady d w
    (match asked.1 with
      | .error e => .error e
      | .ok true => .ok (.ready, [])
      | .ok false => .ok (.deferred, [Reason.unresolvedSymbol]), asked.2)

/-- The properties of a declaration as a builder can expose them. -/
def exposed (d : Declaration) (w : σ) : Except Failure (List Property) × σ :=
  let asked := h.properties d w
  (match asked.1 with
    | .error e => .error e
    | .ok properties =>
      match enumerate d.qualifiedName properties with
      | .error e => .error (.generation e)
      | .ok properties => .ok properties, asked.2)

/-- The artifact with the files that its declaration comes from. -/
def record (a : Artifact) (d : Declaration) (w : σ) : Except Failure Artifact × σ :=
  if a.source ≠ d.qualifiedName then
    (.error (.badValue ("artifact " ++ a.module ++ " comes from " ++ a.source ++ ", not " ++
      d.qualifiedName)), w)
  else
    let asked := h.originatingFiles d w
    (match asked.1 with
      | .error e => .error e
      | .ok files => .ok { a with dependencies := files.eraseDups, aggregating := false }, asked.2)

/-- The builder of a declaration. -/
def generate (d : Declaration) (w : σ) : Except Failure Artifact × σ :=
  let asked := h.exposed d w
  match asked.1 with
  | .error e => (.error e, asked.2)
  | .ok properties =>
    match (d.blueprint properties).render with
    | .error fault => (.error (.badValue fault.message), asked.2)
    | .ok text => h.record (d.draft text) d asked.2

/-- What happens to a declaration. -/
def judge (claimed : Table String) (d : Declaration) (w : σ) : (Outcome × Option Artifact) × σ :=
  let asked := h.gate d w
  match asked.1 with
  | .error e => ((.without d .failed [Reason.internalError] (some e.message), none), asked.2)
  | .ok (.invalid, reasons) => ((.without d .invalid reasons none, none), asked.2)
  | .ok (.deferred, reasons) => ((.without d .deferred reasons none, none), asked.2)
  | .ok (.ready, _) =>
    let made := h.generate d asked.2
    (match made.1 with
      | .error e => (.ofFailure d e, none)
      | .ok a => grant claimed d a, made.2)

/-- The modules that are claimed once a declaration is judged. -/
def claim (claimed : Table String) (d : Declaration) (artifact : Option Artifact) : Table String :=
  match artifact with
  | some a => claimed.insert a.module d.qualifiedName
  | none => claimed

/-- A round over `rest`, after the declarations `done`. The signal may be set by the host. -/
def through (signal : List Declaration → σ → Bool) (done : List Declaration)
    (claimed : Table String) : List Declaration → σ → Scan × σ
  | [], w => (.empty, w)
  | d :: rest, w =>
    if signal done w then (.cutShort (d :: rest), w)
    else
      let judged := h.judge claimed d w
      let later := through signal (done ++ [d]) (claim claimed d judged.1.2) rest judged.2
      (.cons judged.1.1 judged.1.2 later.1, later.2)

/-- A round over the declarations that waited and the new ones. -/
def scan (signal : List Declaration → σ → Bool) (pending fresh : List Declaration) (w : σ) :
    Scan × σ :=
  h.through signal [] .empty (candidates pending fresh) w

end Host

/-! ## 2. Resolvers as hosts -/

/-- A resolver as a host: it answers by the declaration alone and leaves the world as it is. -/
def Resolver.host (r : Resolver) (σ : Type) : Host σ where
  isReady d w := (r.isReady d, w)
  properties d w := (r.properties d, w)
  originatingFiles d w := (r.originatingFiles d, w)

/-- The answers that a host gives in one world, each in the world that the one before left. -/
def Host.answers {σ : Type} (h : Host σ) (w : σ) : Resolver where
  isReady d := (h.isReady d w).1
  properties d := (h.properties d (h.isReady d w).2).1
  originatingFiles d := (h.originatingFiles d (h.properties d (h.isReady d w).2).2).1

section Answers

variable {σ : Type} (h : Host σ) (claimed : Table String) (d : Declaration) (w : σ)

theorem Host.gate_answers : (h.gate d w).1 = d.gate (h.answers w) := by
  unfold Host.gate Declaration.gate Declaration.isReady
  split
  · rfl
  · rfl

/-- The gate asks about a valid declaration once. -/
theorem Host.gate_world (hvalid : d.state ≠ .invalid) :
    (h.gate d w).2 = (h.isReady d w).2 := by
  unfold Host.gate
  rw [if_neg hvalid]

/-- The builder of a declaration, in the world that the gate left. -/
theorem Host.generate_answers :
    (h.generate d (h.isReady d w).2).1 = FluentBuilders.generate (h.answers w) d := by
  have hexposed : (h.exposed d (h.isReady d w).2).1 = d.exposed (h.answers w) := rfl
  have hworld : (h.exposed d (h.isReady d w).2).2 = (h.properties d (h.isReady d w).2).2 := rfl
  unfold Host.generate FluentBuilders.generate
  dsimp only
  rw [← hexposed, hworld]
  cases (h.exposed d (h.isReady d w).2).1 with
  | error e => rfl
  | ok properties =>
    dsimp only
    cases (d.blueprint properties).render with
    | error fault => rfl
    | ok text =>
      dsimp only
      unfold Host.record Artifact.record
      split
      · rfl
      · rfl

/-- A host judges a declaration as the resolver does that has its answers. -/
theorem Host.judge_answers :
    (h.judge claimed d w).1 = FluentBuilders.judge (h.answers w) claimed d := by
  unfold Host.judge FluentBuilders.judge
  rw [← h.gate_answers d w]
  by_cases hvalid : d.state = .invalid
  · unfold Host.gate
    rw [if_pos hvalid]
  · rw [← h.generate_answers d w, ← h.gate_world d w hvalid]
    dsimp only
    cases (h.gate d w).1 with
    | error e => rfl
    | ok gated =>
      obtain ⟨readiness, reasons⟩ := gated
      cases readiness <;> rfl

end Answers

/-- Each question leaves a world in `P` where it met one. -/
structure Host.Keeps {σ : Type} (h : Host σ) (P : σ → Prop) : Prop where
  isReady : ∀ d {w}, P w → P (h.isReady d w).2
  properties : ∀ d {w}, P w → P (h.properties d w).2
  originatingFiles : ∀ d {w}, P w → P (h.originatingFiles d w).2

section Keeps

variable {σ : Type} {h : Host σ} {P : σ → Prop}

theorem Host.Keeps.gate (hkeeps : h.Keeps P) (d : Declaration) {w : σ} (hw : P w) :
    P (h.gate d w).2 := by
  unfold Host.gate
  split
  · exact hw
  · exact hkeeps.isReady d hw

theorem Host.Keeps.generate (hkeeps : h.Keeps P) (d : Declaration) {w : σ} (hw : P w) :
    P (h.generate d w).2 := by
  have hexposed : P (h.exposed d w).2 := hkeeps.properties d hw
  unfold Host.generate Host.record
  dsimp only
  split
  · exact hexposed
  · split
    · exact hexposed
    · split
      · exact hexposed
      · exact hkeeps.originatingFiles d hexposed

/-- The world of a round changes by its questions alone. -/
theorem Host.Keeps.judge (hkeeps : h.Keeps P) (claimed : Table String) (d : Declaration) {w : σ}
    (hw : P w) : P (h.judge claimed d w).2 := by
  have hgate := hkeeps.gate d hw
  unfold Host.judge
  dsimp only
  split
  · exact hgate
  · exact hgate
  · exact hgate
  · exact hkeeps.generate d hgate

end Keeps

theorem Resolver.host_keeps (r : Resolver) {σ : Type} (P : σ → Prop) : (r.host σ).Keeps P :=
  ⟨fun _ _ hw => hw, fun _ _ hw => hw, fun _ _ hw => hw⟩

/-- A round over the host of a resolver is the round over the resolver. -/
theorem Resolver.host_scan (r : Resolver) {σ : Type} (signal : List Declaration → Bool)
    (pending fresh : List Declaration) (w : σ) :
    (r.host σ).scan (fun done _ => signal done) pending fresh w =
      (Scan.run r signal pending fresh, w) := by
  suffices h : ∀ ds done claimed, (r.host σ).through (fun done _ => signal done) done claimed ds w =
      (Scan.through r signal done claimed ds, w) from h _ _ _
  intro ds
  induction ds with
  | nil => exact fun _ _ => rfl
  | cons d rest ih =>
    intro done claimed
    unfold Host.through Scan.through
    split
    · rfl
    · have hjudge := (r.host σ).judge_answers claimed d w
      have hworld := (r.host_keeps (· = w)).judge claimed d rfl
      rw [show (r.host σ).answers w = r from rfl] at hjudge
      simp only [hworld, hjudge, ih]
      rfl

/-! ## 3. Rounds over hosts are rounds over resolvers -/

/-- A declaration is judged by the answers about it alone. -/
theorem judge_congr {r r' : Resolver} {d : Declaration} (hready : r.isReady d = r'.isReady d)
    (hproperties : r.properties d = r'.properties d)
    (hfiles : r.originatingFiles d = r'.originatingFiles d) (claimed : Table String) :
    judge r claimed d = judge r' claimed d := by
  have hgate : d.gate r = d.gate r' := by
    unfold Declaration.gate Declaration.isReady
    rw [hready]
  have hgenerate : generate r d = generate r' d := by
    unfold generate Declaration.exposed Artifact.record
    rw [hproperties, hfiles]
  unfold judge
  rw [hgate, hgenerate]

/-- The resolver `r`, but with the answers of `q` about `d`. -/
def Resolver.override (r : Resolver) (d : Declaration) (q : Resolver) : Resolver where
  isReady e := if e = d then q.isReady e else r.isReady e
  properties e := if e = d then q.properties e else r.properties e
  originatingFiles e := if e = d then q.originatingFiles e else r.originatingFiles e

theorem Resolver.override_judge_self (r : Resolver) (d : Declaration) (q : Resolver)
    (claimed : Table String) : judge (r.override d q) claimed d = judge q claimed d :=
  judge_congr (if_pos rfl) (if_pos rfl) (if_pos rfl) claimed

theorem Resolver.override_judge_of_ne (r : Resolver) {d e : Declaration} (hne : e ≠ d)
    (q : Resolver) (claimed : Table String) :
    judge (r.override d q) claimed e = judge r claimed e :=
  judge_congr (if_neg hne) (if_neg hne) (if_neg hne) claimed

/-- A round depends on what the resolver answers about its declarations, and on the signal from now
on. -/
theorem Scan.through_congr {r r' : Resolver} {signal signal' : List Declaration → Bool}
    {ds done : List Declaration}
    (hjudge : ∀ d ∈ ds, ∀ claimed, judge r claimed d = judge r' claimed d)
    (hsignal : ∀ l, done.length ≤ l.length → signal l = signal' l) (claimed : Table String) :
    through r signal done claimed ds = through r' signal' done claimed ds := by
  induction ds generalizing done claimed with
  | nil => rfl
  | cons d rest ih =>
    have hlater : ∀ l, (done ++ [d]).length ≤ l.length → signal l = signal' l := fun l hl =>
      hsignal l (by rw [List.length_append] at hl; omega)
    unfold through
    rw [hsignal done (Nat.le_refl _), hjudge d List.mem_cons_self]
    simp only [ih (fun e he => hjudge e (List.mem_cons_of_mem _ he)) hlater]

/-- Each round over a host is a round over some resolver: no declaration is asked about twice. -/
theorem Host.through_resolver {σ : Type} (h : Host σ) (signal : List Declaration → σ → Bool)
    {ds : List Declaration} (hds : ds.Nodup) (done : List Declaration) (claimed : Table String)
    (w : σ) : ∃ r read, (h.through signal done claimed ds w).1 = Scan.through r read done claimed ds := by
  induction ds generalizing done claimed w with
  | nil => exact ⟨h.answers w, fun _ => false, rfl⟩
  | cons d rest ih =>
    rw [List.nodup_cons] at hds
    obtain ⟨r, read, hlater⟩ := ih hds.2 (done ++ [d]) (claim claimed d (h.judge claimed d w).1.2)
      (h.judge claimed d w).2
    -- the signal was read after `done`, and later only after longer lists
    refine ⟨r.override d (h.answers w), fun l => if l = done then signal done w else read l, ?_⟩
    unfold Host.through Scan.through
    rw [if_pos rfl, r.override_judge_self, ← h.judge_answers]
    split
    · rfl
    · dsimp only
      rw [hlater]
      refine congrArg _ (Scan.through_congr (fun e he claimed => ?_) (fun l hl => ?_) _)
      · have hne : e ≠ d := fun heq => hds.1 (heq ▸ he)
        exact (r.override_judge_of_ne hne _ _).symm
      · have hne : l ≠ done := fun heq => by
          rw [heq, List.length_append, List.length_singleton] at hl
          omega
        exact (if_neg hne).symm

/-! ## 4. The signal -/

/-- A round and then another. -/
def Scan.append (s s' : Scan) : Scan where
  artifacts := s.artifacts ++ s'.artifacts
  pending := s.pending ++ s'.pending
  outcomes := s.outcomes ++ s'.outcomes
  cancelled := s'.cancelled

theorem Scan.cons_append (outcome : Outcome) (artifact : Option Artifact) (s s' : Scan) :
    (cons outcome artifact s).append s' = cons outcome artifact (s.append s') := by
  unfold cons append
  by_cases hdeferred : outcome.status = .deferred
  · simp [hdeferred]
  · simp [hdeferred]

namespace Host

variable {σ : Type} (h : Host σ) (signal : List Declaration → σ → Bool)

variable {h signal}

/-- Once the signal is seen, the world stays as it is and all that is left is put off. -/
theorem through_cut {done before : List Declaration} {claimed : Table String} {w : σ}
    (hwhole : (h.through signal done claimed before w).1.cancelled = false)
    (hset : signal (done ++ before) (h.through signal done claimed before w).2 = true)
    (d : Declaration) (rest : List Declaration) :
    h.through signal done claimed (before ++ d :: rest) w =
      ((h.through signal done claimed before w).1.append (.cutShort (d :: rest)),
        (h.through signal done claimed before w).2) := by
  induction before generalizing done claimed w with
  | nil =>
    have hset : signal done w = true := by rwa [List.append_nil] at hset
    change h.through signal done claimed (d :: rest) w = (.cutShort (d :: rest), w)
    rw [through, if_pos hset]
  | cons e before ih =>
    rw [List.cons_append, through, through]
    rw [through] at hwhole hset
    split
    · next hcut =>
      rw [if_pos hcut] at hwhole
      cases hwhole
    · next hcut =>
      rw [if_neg hcut] at hwhole hset
      dsimp only at hwhole hset ⊢
      rw [ih hwhole (by rw [List.append_assoc]; exact hset), Scan.cons_append]

/-- A round is cut short only where the signal is seen before one of its declarations. -/
theorem seen_of_cut {done ds : List Declaration} {claimed : Table String} {w : σ}
    (hcut : (h.through signal done claimed ds w).1.cancelled = true) :
    ∃ before d rest, ds = before ++ d :: rest ∧
      (h.through signal done claimed before w).1.cancelled = false ∧
      signal (done ++ before) (h.through signal done claimed before w).2 = true := by
  induction ds generalizing done claimed w with
  | nil => cases hcut
  | cons d rest ih =>
    rw [through] at hcut
    split at hcut
    · next hset => exact ⟨[], d, rest, rfl, rfl, by rwa [List.append_nil]⟩
    · next hset =>
      obtain ⟨before, e, after, rfl, hwhole, hset'⟩ := ih hcut
      refine ⟨d :: before, e, after, rfl, ?_⟩
      rw [through, if_neg hset]
      exact ⟨hwhole, by rwa [List.append_assoc] at hset'⟩

end Host

/-! ## 5. Partitions -/

/-- The names of the first of each are the names, each where it stands first. -/
theorem firstOfEach_names (seen : List String) (ds : List Declaration) :
    (firstOfEach seen ds).map (·.qualifiedName) =
      ((ds.map (·.qualifiedName)).filter fun q => !seen.contains q).eraseDups := by
  induction ds generalizing seen with
  | nil => rfl
  | cons d rest ih =>
    rw [firstOfEach, List.map_cons, List.filter_cons]
    by_cases hseen : seen.contains d.qualifiedName = true
    · rw [if_pos hseen, ih, hseen, Bool.not_true, if_neg Bool.false_ne_true]
    · rw [Bool.not_eq_true] at hseen
      rw [hseen, if_neg Bool.false_ne_true, Bool.not_false, if_pos rfl, List.map_cons, ih,
        List.eraseDups_cons, List.filter_filter]
      congr 3
      funext q
      rw [List.contains_cons, Bool.not_or]

namespace Scan

/-- The result `s` of a round over `pending` and then `fresh` accounts for each name once, in the
order in which the names appear, and tells the rest by the outcomes. -/
structure Partitions (pending fresh : List Declaration) (s : Scan) : Prop where
  names : s.outcomes.map Outcome.qualifiedName =
    ((pending ++ fresh).map (·.qualifiedName)).eraseDups
  first : ∀ o ∈ s.outcomes,
    (pending ++ fresh).find? (fun d => d.qualifiedName == o.qualifiedName) = some o.declaration
  status : ∀ o ∈ s.outcomes, o.status = .generated ∨ o.status = .deferred ∨
    o.status = .invalid ∨ o.status = .failed
  pending : s.pending = (s.outcomes.filter (·.status == .deferred)).map (·.declaration)
  artifacts : List.Forall₂ Outcome.Makes (s.outcomes.filter (·.status == .generated)) s.artifacts
  modules : (s.artifacts.map (·.module)).Nodup

theorem run_partitions (r : Resolver) (signal : List Declaration → Bool)
    (pending fresh : List Declaration) : (run r signal pending fresh).Partitions pending fresh := by
  have haccounts := run_accounts r signal pending fresh
  refine
    { names := ?names, first := ?first, status := ?status
      pending := haccounts.pending
      artifacts := haccounts.artifacts
      modules := (through_modules ..).1 }
  case names =>
    have hnames := firstOfEach_names [] (pending ++ fresh)
    rw [show ∀ l : List String, l.filter (fun q => !List.contains [] q) = l from
      fun l => List.filter_eq_self.mpr fun _ _ => rfl] at hnames
    rw [← hnames]
    change _ = (candidates pending fresh).map _
    rw [← haccounts.declarations, List.map_map]
    rfl
  case first =>
    intro o ho
    have hmem : o.declaration ∈ candidates pending fresh :=
      haccounts.declarations ▸ List.mem_map_of_mem ho
    exact (mem_firstOfEach.mp hmem).2
  case status =>
    intro o ho
    have hstatus := (haccounts.sound o ho).status
    cases h : o.status <;> simp_all

end Scan

namespace Host

variable {σ : Type} (h : Host σ) (signal : List Declaration → σ → Bool)
  (pending fresh : List Declaration) (w : σ)

/-- The signal is first seen after the candidates `before`, and `rest` is left. -/
structure Interrupted (before rest : List Declaration) : Prop where
  split : candidates pending fresh = before ++ rest
  left : rest ≠ []
  whole : (h.through signal [] .empty before w).1.cancelled = false
  seen : signal before (h.through signal [] .empty before w).2 = true

variable {h signal pending fresh w} in
/-- What an interrupted round gives is what it had, with all that is left put off; and the world is as
it was when the signal was seen. -/
theorem Interrupted.scan {before rest : List Declaration}
    (hcut : h.Interrupted signal pending fresh w before rest) :
    h.scan signal pending fresh w =
      ((h.through signal [] .empty before w).1.append (.cutShort rest),
        (h.through signal [] .empty before w).2) := by
  obtain ⟨d, rest, rfl⟩ := List.exists_cons_of_ne_nil hcut.left
  unfold Host.scan
  rw [hcut.split]
  exact through_cut hcut.whole hcut.seen d rest

/-- Whatever a host answers and whenever the signal is set, a round gives what the round over some
resolver gives and partitions its declarations; it counts as cancelled where it saw the signal, and
then it put off all that was left and asked nothing any more. -/
theorem scan_partitions :
    (∃ r read, (h.scan signal pending fresh w).1 = Scan.run r read pending fresh) ∧
      (h.scan signal pending fresh w).1.Partitions pending fresh ∧
      ((h.scan signal pending fresh w).1.cancelled = true ↔
        ∃ before rest, h.Interrupted signal pending fresh w before rest) ∧
      ∀ before rest, h.Interrupted signal pending fresh w before rest →
        h.scan signal pending fresh w =
          ((h.through signal [] .empty before w).1.append (.cutShort rest),
            (h.through signal [] .empty before w).2) := by
  have hds : (candidates pending fresh).Nodup := .of_map _ (nodup_firstOfEach [] _)
  obtain ⟨r, read, hrun⟩ := h.through_resolver signal hds [] .empty w
  change (h.scan signal pending fresh w).1 = Scan.run r read pending fresh at hrun
  refine ⟨⟨r, read, hrun⟩, ?_, ⟨fun hcancelled => ?_, ?_⟩, fun _ _ hcut => hcut.scan⟩
  · rw [hrun]
    exact Scan.run_partitions r read pending fresh
  · obtain ⟨before, d, rest, hsplit, hwhole, hseen⟩ := seen_of_cut hcancelled
    exact ⟨before, d :: rest, hsplit, List.cons_ne_nil d rest, hwhole, hseen⟩
  · rintro ⟨before, rest, hcut⟩
    rw [hcut.scan]
    rfl

/-- A host that counts the questions about readiness, and answers none. -/
def down : Host Nat where
  isReady _ n := (.error (.crash "down"), n + 1)
  properties _ n := (.error (.crash "down"), n)
  originatingFiles _ n := (.error (.crash "down"), n)

/-- Of the names `A`, `A`, `B` and `C`, where the signal is set after the first question, `A` fails and
the others wait, and there is no second question. -/
theorem scan_partitions_down :
    let d (name : String) : Declaration := ⟨"p", name, "p.a", [], .unresolved, []⟩
    down.scan (fun _ n => n == 1) [d "A"] [d "A", d "B", d "C"] 0 =
      (⟨[], [d "B", d "C"],
        [.without (d "A") .failed [Reason.internalError] (some "down"), .cancelled (d "B"),
          .cancelled (d "C")], true⟩, 1) := by
  intro d
  exact (down.scan_partitions (fun _ n => n == 1) [d "A"] [d "A", d "B", d "C"] 0).2.2.2
    [d "A"] [d "B", d "C"] ⟨by decide, by decide, by decide, by decide⟩

end Host

end FluentBuilders
