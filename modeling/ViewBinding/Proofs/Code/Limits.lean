import ViewBinding.Proofs.Code.Guards

/-!
# Sinks with a limit

The same program is run on a page and on a bounded page. Until a piece is refused the runs are the
same, and after that nothing more is written on the bounded page.

* `Tracks`: how a run on a bounded page stands to the run on a page.
* `Tracks.andThen`: one operation after the other keeps that.
* `Guarded.tracks_run`: so does every operation, however deep it fails.
* `held_bounded`: what the bounded page holds after a whole program and after a failure.
-/

namespace ViewBinding.Code

/-- A run with the result `r` on a page bounded by `limit`, beside the run with the result `full` on
a page without a bound, both from `start`. `held` is the text that a state holds. -/
structure Tracks {S : Type} (held : S → String) (limit : Nat) (start : S) (r full : S × Bool) :
    Prop where
  succeeds : full.2 = true
  same : r.2 = true → r.1 = full.1
  front : (held r.1).toList <+: (held full.1).toList
  grows : (held start).toList <+: (held full.1).toList
  fits : (held start).utf8ByteSize ≤ limit → (held r.1).utf8ByteSize ≤ limit
  takes : (held full.1).utf8ByteSize ≤ limit → r.2 = true

theorem utf8ByteSize_le_of_isPrefix {a b : String} (h : a.toList <+: b.toList) :
    a.utf8ByteSize ≤ b.utf8ByteSize := by
  obtain ⟨rest, hrest⟩ := h
  have hb : b = a ++ String.ofList rest := by
    rw [← String.toList_inj, String.toList_append, String.toList_ofList, hrest]
  rw [hb, String.utf8ByteSize_append]
  exact Nat.le_add_right _ _

namespace Tracks

variable {S : Type} {held : S → String} {limit : Nat} {start : S} {r full : S × Bool}

/-- Only what is held at the start matters. -/
theorem of_start (h : Tracks held limit start r full) {s : S} (hs : held s = held start) :
    Tracks held limit s r full := by
  obtain ⟨hsucceeds, hsame, hfront, hgrows, hfits, htakes⟩ := h
  rw [← hs] at hgrows hfits
  exact ⟨hsucceeds, hsame, hfront, hgrows, hfits, htakes⟩

/-- Nothing is written. -/
theorem of_held_eq {s : S} (h : held s = held start) :
    Tracks held limit start (s, true) (s, true) where
  succeeds := rfl
  same := fun _ => rfl
  front := List.prefix_rfl
  grows := h ▸ List.prefix_rfl
  fits := fun hstart => by rwa [h]
  takes := fun _ => rfl

/-- After a success both runs go on from the same state. After a failure the bounded run only
unwinds, and whatever the other run writes comes behind what both hold. -/
theorem andThen (h : Tracks held limit start r full) {next fullNext : S → S × Bool}
    {unwind fullUnwind : S → S} (hunwind : ∀ s, held (unwind s) = held s)
    (hnext : ∀ s, Tracks held limit s (next s) (fullNext s)) :
    Tracks held limit start (if r.2 then next r.1 else (unwind r.1, false))
      (if full.2 then fullNext full.1 else (fullUnwind full.1, false)) := by
  have hlater := hnext full.1
  rw [if_pos h.succeeds]
  split
  · next hok =>
    have hfits := h.fits
    rw [h.same hok] at hfits ⊢
    exact ⟨hlater.succeeds, hlater.same, hlater.front, h.grows.trans hlater.grows,
      fun hstart => hlater.fits (hfits hstart), hlater.takes⟩
  · next hok =>
    refine ⟨hlater.succeeds, nofun, ?_, h.grows.trans hlater.grows, ?_, fun hsize => ?_⟩
    · rw [hunwind]
      exact h.front.trans hlater.grows
    · rw [hunwind]
      exact h.fits
    · -- If all of the text fitted, so would the part before the refusal.
      have hbefore := utf8ByteSize_le_of_isPrefix hlater.grows
      exact absurd (h.takes (Nat.le_trans hbefore hsize)) hok

/-- Where the start is within the limit, the bounded run succeeds just if all of the text is. -/
theorem ok_iff (h : Tracks held limit start r full) (hstart : (held start).utf8ByteSize ≤ limit) :
    r.2 = true ↔ (held full.1).utf8ByteSize ≤ limit := by
  refine ⟨fun hok => ?_, h.takes⟩
  rw [← h.same hok]
  exact h.fits hstart

end Tracks

theorem Attempt.andThen_eq {σ : Type} (a : Attempt σ) (f : Writer σ → Attempt σ) :
    Attempt.andThen a f = if a.2 then f a.1 else (id a.1, false) := by
  obtain ⟨w, ok⟩ := a
  cases ok <;> rfl

/-! ## Writers -/

namespace Writer

variable (limit : Nat) (w : Writer String)

/-- Where one attempt follows the other. -/
theorem tracks_andThen {a full : Attempt String} {next fullNext : Writer String → Attempt String}
    (h : Tracks held limit w a full)
    (hnext : ∀ w, Tracks held limit w (next w) (fullNext w)) :
    Tracks held limit w (Attempt.andThen a next) (Attempt.andThen full fullNext) := by
  rw [Attempt.andThen_eq, Attempt.andThen_eq]
  exact h.andThen (fun w => rfl) hnext

theorem tracks_offer (piece : String) :
    Tracks held limit w (w.offer (Sink.bounded limit) piece) (w.offer Sink.page piece) := by
  have hgrows : w.held.toList <+: (w.held ++ piece).toList := by
    rw [String.toList_append]
    exact List.prefix_append _ _
  by_cases hsize : w.held.utf8ByteSize + piece.utf8ByteSize ≤ limit
  · rw [offer, Sink.bounded_offer_of_le hsize]
    exact ⟨rfl, fun _ => rfl, List.prefix_rfl, hgrows,
      fun _ => by rwa [String.utf8ByteSize_append], fun _ => rfl⟩
  · rw [offer, Sink.bounded_offer_of_lt (Nat.not_le.mp hsize)]
    exact ⟨rfl, nofun, hgrows, hgrows, id,
      fun hfull => absurd (String.utf8ByteSize_append ▸ hfull) hsize⟩

theorem tracks_offerUnits (n : Nat) :
    Tracks held limit w (w.offerUnits (Sink.bounded limit) n) (w.offerUnits Sink.page n) := by
  induction n generalizing w with
  | zero => exact .of_held_eq rfl
  | succ n ih => exact tracks_andThen limit w (w.tracks_offer limit w.unit) ih

theorem tracks_startLine :
    Tracks held limit w (w.startLine (Sink.bounded limit)) (w.startLine Sink.page) :=
  tracks_andThen limit w (w.tracks_offerUnits limit w.level) fun _ => .of_held_eq rfl

theorem tracks_write (text : String) :
    Tracks held limit w (w.write (Sink.bounded limit) text) (w.write Sink.page text) := by
  unfold write
  split
  · exact .of_held_eq rfl
  · split
    · exact tracks_andThen limit w (w.tracks_startLine limit) fun w => w.tracks_offer limit text
    · exact w.tracks_offer limit text

theorem tracks_newline :
    Tracks held limit w (w.newline (Sink.bounded limit)) (w.newline Sink.page) :=
  tracks_andThen limit w (w.tracks_offer limit "\n") fun _ => .of_held_eq rfl

theorem tracks_putAll (strokes : List Stroke) :
    Tracks held limit w (w.putAll (Sink.bounded limit) strokes) (w.putAll Sink.page strokes) := by
  induction strokes generalizing w with
  | nil => exact .of_held_eq rfl
  | cons stroke rest ih =>
    refine tracks_andThen limit w ?_ ih
    cases stroke with
    | text t => exact w.tracks_write limit t
    | feed => exact w.tracks_newline limit

end Writer

/-! ## Programs -/

namespace Guarded

/-- The text that is held. -/
def text (g : Guarded String) : String :=
  g.writer.held

theorem text_drop (g : Guarded String) (keeper : Keeper) : (g.drop keeper).text = g.text := by
  unfold Guarded.drop
  split <;> rfl

theorem text_leave (g : Guarded String) (owned : List Nat) : (g.leave owned).text = g.text :=
  leave_induction (P := fun g' => g'.text = g.text) rfl
    (fun g' keeper hg => (text_drop g' keeper).trans hg) owned

variable (limit : Nat)

/-- Where one turn follows the other. -/
theorem tracks_andThen {g : Guarded String} {t full : Turn String}
    (h : Tracks text limit g t full) {unwind : Guarded String → Guarded String}
    {next fullNext : Guarded String → Turn String} (hunwind : ∀ g, (unwind g).text = g.text)
    (hnext : ∀ g, Tracks text limit g (next g) (fullNext g)) :
    Tracks text limit g (t.andThen unwind next) (full.andThen unwind fullNext) :=
  h.andThen hunwind hnext

theorem tracks_writes (g : Guarded String) {attempt full : Writer String → Attempt String}
    {strokes : List Stroke} (hattempt : ∀ w, attempt w = w.putAll (Sink.bounded limit) strokes)
    (hfull : ∀ w, full w = w.putAll Sink.page strokes) :
    Tracks text limit g (g.writes attempt) (g.writes full) := by
  have hw := g.writer.tracks_putAll limit strokes
  rw [← hattempt, ← hfull] at hw
  refine ⟨hw.succeeds, fun hok => ?_, hw.front, hw.grows, hw.fits, hw.takes⟩
  rw [writes, writes, hw.same hok]

mutual

/-- An operation runs on the bounded page as on the page, until a piece is refused. -/
theorem tracks_run (g : Guarded String) (op : Op) :
    Tracks text limit g (op.run (Sink.bounded limit) g) (op.run Sink.page g) := by
  cases op with
  | output o =>
    rw [Op.run, Op.run]
    exact g.tracks_writes limit (fun w => o.put_eq _ w) fun w => o.put_eq _ w
  | take place =>
    rw [Op.run, Op.run]
    exact .of_held_eq rfl
  | drop place =>
    rw [Op.run, Op.run]
    exact .of_held_eq (g.text_drop (.place place))
  | block header trailer owned body =>
    rw [Op.run, Op.run]
    refine tracks_andThen limit (g.tracks_writes limit (fun w => w.openBlock_eq _ header)
      fun w => w.openBlock_eq _ header) (text_leave · owned) fun g => ?_
    have hover (g : Guarded String) : ((g.leave owned).drop .block).text = g.text := by
      rw [text_drop, text_leave]
    have hbody := (tracks_runBody (g.take .block) body).of_start (s := g) rfl
    refine tracks_andThen limit hbody hover fun g => ?_
    have hclose := ((g.leave owned).drop .block).tracks_writes limit
      (fun w => w.closeBlock_eq _ trailer) fun w => w.closeBlock_eq _ trailer
    exact hclose.of_start (hover g).symm

/-- So does a body, which stops at the refusal. -/
theorem tracks_runBody (g : Guarded String) (body : List Op) :
    Tracks text limit g (Op.runBody (Sink.bounded limit) g body) (Op.runBody Sink.page g body) := by
  cases body with
  | nil =>
    rw [Op.runBody, Op.runBody]
    exact .of_held_eq rfl
  | cons op rest =>
    rw [Op.runBody, Op.runBody]
    exact (tracks_run g op).andThen (fun g => rfl) fun g => tracks_runBody g rest

end

/-- As long as no operation fails, whole programs run on the bounded page as on the page. -/
theorem runAll_bounded_eq {g : Guarded String} {ops : List Op}
    (hok : (Op.runAll (Sink.bounded limit) g ops).2 = true) :
    Op.runAll Sink.page g ops = Op.runAll (Sink.bounded limit) g ops := by
  induction ops generalizing g with
  | nil => rfl
  | cons op rest ih =>
    obtain ⟨hnow, hlater⟩ := Bool.and_eq_true_iff.mp hok
    -- An operation that has succeeded has left one state on both pages.
    have htracks := g.tracks_run limit op
    have hsame : op.run Sink.page g = op.run (Sink.bounded limit) g :=
      Prod.ext (htracks.same hnow).symm (htracks.succeeds.trans hnow.symm)
    rw [Op.runAll, Op.runAll, hsame, ih hlater]

/-- What is held stays within the limit. -/
theorem size_runAll_bounded {g : Guarded String} (ops : List Op)
    (h : g.text.utf8ByteSize ≤ limit) :
    (Op.runAll (Sink.bounded limit) g ops).1.text.utf8ByteSize ≤ limit := by
  induction ops generalizing g with
  | nil => exact h
  | cons op rest ih => exact ih ((g.tracks_run limit op).fits h)

end Guarded

/-- As long as no operation of a program fails, a writer on a bounded page is in the same state as
one on a page without a bound. The next operation succeeds just if the text after it is within the
limit. Where it fails, however deep inside of blocks, the bounded page holds the beginning of that
text and no more than the limit. -/
theorem held_bounded (limit : Nat) (unit : String) (ops : List Op)
    (hok : (Op.runAll (Sink.bounded limit) { writer := { held := "", unit } } ops).2 = true) :
    let small := (Op.runAll (Sink.bounded limit) { writer := { held := "", unit } } ops).1
    let large := (Op.runAll Sink.page { writer := { held := "", unit } } ops).1
    small = large ∧
      ∀ op : Op,
        let next := op.run (Sink.bounded limit) small
        let full := op.run Sink.page large
        (next.2 = true ↔ full.1.writer.held.utf8ByteSize ≤ limit) ∧
          next.1.writer.held.toList <+: full.1.writer.held.toList ∧
            next.1.writer.held.utf8ByteSize ≤ limit := by
  intro small large
  have hsame : small = large := congrArg Prod.fst (Guarded.runAll_bounded_eq limit hok).symm
  refine ⟨hsame, fun op => ?_⟩
  have hstart : small.text.utf8ByteSize ≤ limit :=
    Guarded.size_runAll_bounded limit ops (Nat.zero_le limit)
  have htracks := small.tracks_run limit op
  rw [← hsame]
  exact ⟨htracks.ok_iff hstart, htracks.front, htracks.fits hstart⟩

/-- The limit is passed two blocks deep, between the indentation of a line and its text. -/
theorem held_bounded_nestedBlocks :
    let ops : List Op := [.take 0, .output (.line "a")]
    let op : Op := .block "b" "" [] [.block "c" ";" [] [.output (.comment "d")]]
    let small := (Op.runAll (Sink.bounded 24) { writer := { held := "", unit := "  " } } ops).1
    let large := (Op.runAll Sink.page { writer := { held := "", unit := "  " } } ops).1
    let next := op.run (Sink.bounded 24) small
    let full := op.run Sink.page large
    (Op.runAll (Sink.bounded 24) { writer := { held := "", unit := "  " } } ops).2 = true ∧
      small = large ∧ next.2 = false ∧
      next.1.writer.held.toList <+: full.1.writer.held.toList ∧
      next.1.writer.held = "  a\n  b \x7b\n    c \x7b\n      " := by
  intro ops op
  have hok : (Op.runAll (Sink.bounded 24) { writer := { held := "", unit := "  " } } ops).2 =
      true := by decide +kernel
  have hlaw := held_bounded 24 "  " ops hok
  exact ⟨hok, hlaw.1, by decide +kernel, (hlaw.2 op).2.1, by decide +kernel⟩

end ViewBinding.Code
