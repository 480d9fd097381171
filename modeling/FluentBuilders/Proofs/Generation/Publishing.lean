import FluentBuilders.Generation
import FluentBuilders.Proofs.Publication
import FluentBuilders.Proofs.Rounds.Sending

/-!
What the rounds of a run leave in the tree that they publish to.

1. Artifacts that are published one after the other: each stays as it was published, as long as their
   modules differ.
2. The artifacts that a run sends: they are fit, and each belongs to a declaration of the report.
   Where the builders of declarations have different modules, so have they.
-/

namespace FluentBuilders

open Text

/-! ## 1. One after the other -/

section Sequence

variable {t : FileTree} {out : Location} {artifacts : List Artifact}

/-- Only the files of artifacts are touched. -/
theorem worldAfter_later (hs : t.Sound) (hout : ".." ∉ out)
    (hnames : ∀ a ∈ artifacts, IsModuleName a.module) :
    FileTree.Later (fun l => ∃ a ∈ artifacts, l = destination out a.module) (fun _ => False) t
      (worldAfter (publish (Location.path out)) artifacts t) := by
  induction artifacts generalizing t with
  | nil => exact .refl t
  | cons a rest ih =>
    have hfirst := publish_later hs hout (hnames a List.mem_cons_self) fun _ => False
    have hrest := ih (hfirst.sound hs) fun b hb => hnames b (List.mem_cons_of_mem _ hb)
    refine (hfirst.mono (fun l hl => ?_) fun _ => id).trans (hrest.mono (fun l hl => ?_) fun _ => id)
    · exact ⟨a, List.mem_cons_self, hl⟩
    · obtain ⟨b, hb, hl⟩ := hl
      exact ⟨b, List.mem_cons_of_mem _ hb, hl⟩

theorem worldAfter_headed (hs : t.Sound) (hout : ".." ∉ out) (hfit : ∀ a ∈ artifacts, a.Fit)
    {m : String} (hm : Headed out m t) :
    Headed out m (worldAfter (publish (Location.path out)) artifacts t) := by
  induction artifacts generalizing t with
  | nil => exact hm
  | cons a rest ih =>
    have ha := hfit a List.mem_cons_self
    exact ih ((publish_later hs hout ha.module fun _ => False).sound hs)
      (fun b hb => hfit b (List.mem_cons_of_mem _ hb)) (publish_headed hs hout ha hm)

/-- After an artifact was published, the others leave its file alone. -/
theorem sendings_later (hs : t.Sound) (hout : ".." ∉ out)
    (hnames : ∀ a ∈ artifacts, IsModuleName a.module)
    (hnodup : (artifacts.map (·.module)).Nodup) {p : Artifact × FileTree}
    (hp : p ∈ sendings (publish (Location.path out)) artifacts t) :
    p.1 ∈ artifacts ∧ p.2.Sound ∧
      FileTree.Later (fun l => ∃ a ∈ artifacts, a.module ≠ p.1.module ∧ l = destination out a.module)
        (fun _ => False) (publish (Location.path out) p.1 p.2).2
        (worldAfter (publish (Location.path out)) artifacts t) := by
  obtain ⟨before, after, rfl, hworld⟩ := mem_sendings hp
  have hsound : p.2.Sound := by
    rw [hworld]
    exact (worldAfter_later hs hout fun a ha => hnames a (List.mem_append_left _ ha)).sound hs
  have hp : IsModuleName p.1.module := hnames _ (by simp)
  have hafter : ∀ a ∈ after, IsModuleName a.module := fun a ha => hnames a (by simp [ha])
  have hrest := worldAfter_later ((publish_later hsound hout hp fun _ => False).sound hsound) hout
    hafter
  refine ⟨by simp, hsound, ?_⟩
  rw [worldAfter_append, ← hworld]
  refine hrest.mono (fun l hl => ?_) fun _ => id
  obtain ⟨a, ha, hl⟩ := hl
  refine ⟨a, by simp [ha], fun heq => ?_, hl⟩
  rw [List.map_append, List.map_cons, List.nodup_append] at hnodup
  exact (List.nodup_cons.mp hnodup.2.1).1 (heq ▸ List.mem_map_of_mem ha)

end Sequence

/-! ## 2. What a run sends -/

namespace Generation

theorem surroundings_steady {r : Request} (hcheck : r.check = false) (output : FilePath) :
    (surroundings r output fun _ => false).Steady (publish output) where
  publish := by
    unfold surroundings
    rw [hcheck]
    rfl
  never _ _ := rfl
  order _ artifacts := .refl artifacts

end Generation

namespace Rounds

variable {σ : Type} {env : Surroundings σ} {send : Artifact → σ → Except PublishFault Published × σ}
  {profile : Profile} {fuel round : Nat} {s s' : State σ} {world : σ} {a : Artifact}
  {names : List String}

/-- An artifact whose outcome lasts belongs to a declaration of the report. -/
theorem Lasts.reported {run : Run} (h : Lasts run a) (g : Registry) :
    ∃ d ∈ run.declarationReports g, d.qualifiedName = a.source ∧
      builderModule d.package d.name = a.module := by
  obtain ⟨n, o, hget, -, -, hmodule⟩ := h
  exact ⟨_, mem_declarationReports.mpr ⟨_, n, o, Table.mem_of_get? hget, rfl⟩, rfl, hmodule⟩

/-- What a round makes is fit. -/
theorem Account.scan_fit (h : Account profile.marker names s)
    (ha : a ∈ (scanOf env profile.marker round s).artifacts) : a.Fit := by
  obtain ⟨d, -, hgenerate⟩ := Scan.through_made _ _ _ _ ha
  exact (h.registry.report profile.marker).fit hgenerate

/-- What a run sends is fit. -/
theorem sent_fit (henv : env.Steady send) (hs : Account profile.marker names s)
    (h : loop env profile fuel round s = (.ok s', world))
    (ha : a ∈ sent env profile fuel round s) : a.Fit := by
  obtain ⟨g, hg, d, hgenerate⟩ := sent_generated henv hs h ha
  exact hg.fit hgenerate

/-- Where the builders of declarations have different modules, no module is sent twice. -/
theorem sent_modules (henv : env.Steady send) (hs : Account profile.marker names s)
    (h : loop env profile fuel round s = (.ok s', world)) {g : Registry}
    (hdistinct : ((s'.run.declarationReports g).map
      fun d => builderModule d.package d.name).Nodup) :
    ((sent env profile fuel round s).map (·.module)).Nodup := by
  have hsources := sent_sources henv hs h
  refine hsources.of_map.map_on fun a ha b hb hmodule => ?_
  obtain ⟨d, hd, hdsource, hdmodule⟩ := (loop_lasts henv hs h ha).reported g
  obtain ⟨e, he, hesource, hemodule⟩ := (loop_lasts henv hs h hb).reported g
  have heq : d = e := by
    refine List.inj_on_of_nodup_map hdistinct hd he ?_
    rw [hdmodule, hemodule, hmodule]
  refine List.inj_on_of_nodup_map hsources ha hb ?_
  rw [← hdsource, ← hesource, heq]

end Rounds

end FluentBuilders
