import Resumption.Proofs.DataDirectory

/-! How a file is replaced as a whole. The directories around it are made, the new
content is written to a file beside it, and that file is moved into its place.
Everything before the move is work around and beside the file. -/
namespace Resumption

/-- A guarantee that admits all work around and beside a path: the directories on
the way are made, and a file beside it is prepared. -/
structure Framing (path beside : Path) (F : Machine → Machine → Prop) : Prop where
  refl : ∀ m, F m m
  trans : ∀ m m' m'', F m m' → F m' m'' → F m m''
  around : ∀ directory, path.parent? = some directory → ∀ a ∈ directory.ancestors,
    ∀ m outcome, F m (m.reply (.makeDirectory a) outcome).2
  beside : ∀ r, r.isBeside beside = true → ∀ m outcome, F m (m.reply r outcome).2

/-- The file itself is left alone if the one beside it has a place of its own. -/
theorem framing_keeps {path beside : Path} (apart : beside.place ≠ path.place) :
    Framing path beside (Machine.Keeps path.place) where
  refl := .refl path.place
  trans _ _ _ := .trans
  around _ _ _ _ _ := Machine.reply_keeps (by simp [Request.changes])
  beside _ aside _ := Machine.reply_keeps fun _ changed =>
    Request.eq_of_isBeside aside changed ▸ apart

namespace Framing

variable {path beside : Path} {F : Machine → Machine → Prop} {m m' : Machine}

theorem and {F' : Machine → Machine → Prop} (framing : Framing path beside F)
    (framing' : Framing path beside F') :
    Framing path beside fun m m' => F m m' ∧ F' m m' where
  refl m := ⟨framing.refl m, framing'.refl m⟩
  trans m m' m'' first second :=
    ⟨framing.trans m m' m'' first.1 second.1, framing'.trans m m' m'' first.2 second.2⟩
  around directory parent a enclosing m outcome :=
    ⟨framing.around directory parent a enclosing m outcome,
      framing'.around directory parent a enclosing m outcome⟩
  beside r aside m outcome := ⟨framing.beside r aside m outcome, framing'.beside r aside m outcome⟩

theorem request (framing : Framing path beside F) {r : Request} (aside : r.isBeside beside = true)
    (begun : F m m') :
    (Script.request r).Ensures (fun m₁ m₂ => F m m₁ ∧ F m₁ m₂) (fun _ m₂ => F m m₂) m' := by
  intro outcome
  have step := framing.beside r aside m' outcome
  exact ⟨⟨begun, step⟩, framing.trans _ _ _ begun step⟩

theorem makeDirectories (framing : Framing path beside F) {directory : Path}
    (parent : path.parent? = some directory) (s : Step) (begun : F m m') :
    Work.Ensures (fun m₁ m₂ => F m m₁ ∧ F m₁ m₂) (fun _ m₂ => F m m₂) (fun _ m₂ => F m m₂)
      (Work.step s (Script.makeDirectories directory)) m' := by
  have made := Script.makeDirectories_ensures_of framing.refl framing.trans
    (framing.around directory parent) m'
  exact Work.ensures_step_of ((made.since framing.trans begun).mono (fun _ _ => id)
    fun _ _ => And.left)

/-- Where a write beside the path is reported as done, the content is there. -/
theorem write (framing : Framing path beside F) (s : Step) (content : Bytes) (begun : F m m') :
    Work.Ensures (fun m₁ m₂ => F m m₁ ∧ F m₁ m₂)
      (fun _ m₂ => F m m₂ ∧ m₂.volume.get? beside.place = some (.file content))
      (fun _ m₂ => F m m₂) (Work.step s (Script.request (.write beside content))) m' := by
  refine Work.ensures_step fun outcome => ?_
  have step := framing.beside (.write beside content) (decide_eq_true rfl) m' outcome
  have after := framing.trans _ _ _ begun step
  refine ⟨⟨begun, step⟩, ?_⟩
  rcases m'.reply_write beside content outcome with ⟨e, same⟩ | ⟨volume, done, same⟩
  · rw [same]
    exact after
  · rw [same] at after ⊢
    exact ⟨after, Volume.get?_write done⟩

/-- The last two steps: the file beside, then the move. Until the move the path is
left alone, and the move puts the whole content there. -/
theorem replace (framing : Framing path beside F) (writing moving : Step) {content : Bytes}
    {G : Machine → Machine → Prop} {P : Machine → Prop} (begun : F m m')
    (keeping : ∀ m₁ m₂, F m m₁ → F m₁ m₂ → G m₁ m₂)
    (arriving : ∀ (m₁ : Machine) volume, F m m₁ → m₁.volume.move beside path = .ok volume →
      volume.read path = .ok content → G m₁ { m₁ with volume } ∧ P { m₁ with volume }) :
    Work.Ensures G (fun _ m₂ => P m₂) (fun _ m₂ => F m m₂) (do
      Work.step writing (Script.request (.write beside content))
      Work.step moving (Script.request (.move beside path))) m' := by
  refine ((framing.write writing content begun).mono
    (fun m₁ m₂ steps => keeping m₁ m₂ steps.1 steps.2) (fun _ _ => id) fun _ _ => id).bind ?_
  rintro - m₁ ⟨before, stands⟩
  refine Work.ensures_step fun outcome => ?_
  rcases m₁.reply_move beside path outcome with ⟨e, same⟩ | ⟨volume, done, same⟩ <;> rw [same]
  · exact ⟨keeping _ _ before (framing.refl m₁), before⟩
  · exact arriving m₁ volume before done (Volume.read_move done stands)

end Framing
end Resumption
