import ViewBinding.Proofs.Placement
import ViewBinding.Round

/-!
# Gathering as a run over sightings

A round is one list of sightings, those for `BindView` before those for `OnClick`. Gathering takes
them in one by one. What it does to the roster, to the log and to the tally are three runs over that
list, and none of them looks at the other two.

* `Gathering.gather_roster`: the roster is changed by the accepted sightings alone.
* `Gathering.gather_log`: the log grows by one error for each rejected sighting.
* `Gathering.gather_tally`: each sighting is scanned, and it is either accepted or rejected.
-/

namespace ViewBinding

/-- A declaration that was reported for an annotation. -/
structure Sighting where
  kind : AnnotationKind
  declaration : Declaration
  deriving DecidableEq, Repr

namespace Sighting

/-- The annotation binds where it stands. -/
def isAccepted (r : Sighting) : Bool :=
  (r.declaration.placeAs r.kind).isOk

/-- The error on a sighting that is not accepted. -/
def rejection? (r : Sighting) : Option Diagnostic :=
  match r.declaration.placeAs r.kind with
  | .ok _ => none
  | .error reason => some {
      level := .error
      message := reason.message
      subject := some r.declaration.symbolKey
      location := r.declaration.place }

theorem isAccepted_iff {r : Sighting} :
    r.isAccepted = true ↔ ∃ place, r.declaration.placeAs r.kind = .ok place := by
  unfold isAccepted
  cases r.declaration.placeAs r.kind <;> simp [Except.isOk, Except.toBool]

theorem rejection?_eq_none_iff {r : Sighting} : r.rejection? = none ↔ r.isAccepted = true := by
  unfold isAccepted rejection?
  cases r.declaration.placeAs r.kind <;> simp [Except.isOk, Except.toBool]

theorem level_of_rejection? {r : Sighting} {x : Diagnostic} (h : r.rejection? = some x) :
    x.level = .error ∧ x.subject = some r.declaration.symbolKey := by
  unfold rejection? at h
  split at h
  · cases h
  · cases h
    exact ⟨rfl, rfl⟩

end Sighting

namespace Round

/-- All that a round reports, in the order in which it is gathered. -/
def sightings (round : Round) : List Sighting :=
  AnnotationKind.all.flatMap fun kind => (round.reported kind).map fun d => ⟨kind, d⟩

/-- The errors on what a round reports in vain. -/
def rejections (round : Round) : List Diagnostic :=
  round.sightings.filterMap Sighting.rejection?

theorem sightings_eq (round : Round) :
    round.sightings = (round.reported .bindView).map (fun d => ⟨.bindView, d⟩) ++
      (round.reported .onClick).map (fun d => ⟨.onClick, d⟩) := by
  simp [sightings, AnnotationKind.all]

theorem mem_sightings {round : Round} {r : Sighting} :
    r ∈ round.sightings ↔ r.declaration ∈ round.reported r.kind := by
  obtain ⟨kind, d⟩ := r
  rw [sightings_eq]
  cases kind <;> simp

theorem length_sightings (round : Round) :
    round.sightings.length =
      round.sightings.countP (·.isAccepted) + round.sightings.countP (!·.isAccepted) := by
  rw [List.length_eq_countP_add_countP (·.isAccepted)]
  simp

end Round

theorem Tally.ext {t t' : Tally} (hs : t.scanned = t'.scanned) (ha : t.accepted = t'.accepted)
    (hr : t.rejected = t'.rejected) : t = t' := by
  obtain ⟨scanned, accepted, rejected⟩ := t
  cases hs
  cases ha
  cases hr
  rfl

/-- The roster after one sighting: an accepted one claims its views for its class. -/
def Roster.enter (roster : Roster) (r : Sighting) : Roster :=
  match r.declaration.placeAs r.kind with
  | .error _ => roster
  | .ok place => roster.update place.owner (·.bindAll place.table place.ids r.declaration)

namespace Gathering

/-- One sighting taken in. -/
def take (g : Gathering) (r : Sighting) : Gathering :=
  gatherOne r.kind g r.declaration

theorem gather_eq_foldl (round : Round) (g : Gathering) :
    gather round g = round.sightings.foldl take g := by
  simp only [gather, AnnotationKind.all, List.foldl_cons, List.foldl_nil]
  rw [Round.sightings_eq, List.foldl_append, List.foldl_map, List.foldl_map]
  rfl

theorem take_roster (g : Gathering) (r : Sighting) : (g.take r).roster = g.roster.enter r := by
  unfold take gatherOne Roster.enter
  cases r.declaration.placeAs r.kind <;> rfl

theorem take_log (g : Gathering) (r : Sighting) :
    (g.take r).log = g.log ++ r.rejection?.toList := by
  unfold take gatherOne Sighting.rejection?
  cases r.declaration.placeAs r.kind with
  | error reason => rfl
  | ok place => simp

theorem take_tally (g : Gathering) (r : Sighting) :
    (g.take r).tally.scanned = g.tally.scanned + 1 ∧
    (g.take r).tally.accepted = g.tally.accepted + (if r.isAccepted then 1 else 0) ∧
    (g.take r).tally.rejected = g.tally.rejected + (if r.isAccepted then 0 else 1) := by
  unfold take gatherOne Sighting.isAccepted
  cases r.declaration.placeAs r.kind <;> exact ⟨rfl, rfl, rfl⟩

/-- The roster is changed by the accepted sightings alone. -/
theorem gather_roster (round : Round) (g : Gathering) :
    (gather round g).roster = round.sightings.foldl Roster.enter g.roster := by
  rw [gather_eq_foldl]
  induction round.sightings generalizing g with
  | nil => rfl
  | cons r rest ih => rw [List.foldl_cons, List.foldl_cons, ih, take_roster]

/-- The log grows by one error for each rejected sighting. -/
theorem gather_log (round : Round) (g : Gathering) :
    (gather round g).log = g.log ++ round.rejections := by
  rw [gather_eq_foldl, Round.rejections]
  induction round.sightings generalizing g with
  | nil => simp
  | cons r rest ih =>
    rw [List.foldl_cons, ih, take_log, List.filterMap_cons]
    cases r.rejection? <;> simp

/-- Each sighting is scanned, and it is either accepted or rejected. -/
theorem gather_tally (round : Round) (g : Gathering) :
    (gather round g).tally.scanned = g.tally.scanned + round.sightings.length ∧
    (gather round g).tally.accepted =
      g.tally.accepted + round.sightings.countP (·.isAccepted) ∧
    (gather round g).tally.rejected =
      g.tally.rejected + round.sightings.countP (!·.isAccepted) := by
  rw [gather_eq_foldl]
  induction round.sightings generalizing g with
  | nil => simp
  | cons r rest ih =>
    obtain ⟨hs, ha, hr⟩ := ih (g.take r)
    obtain ⟨ts, ta, tr⟩ := take_tally g r
    rw [List.foldl_cons, hs, ha, hr, ts, ta, tr, List.length_cons, List.countP_cons,
      List.countP_cons]
    refine ⟨by omega, by omega, ?_⟩
    cases r.isAccepted with
    | true => simp
    | false =>
      simp only [Bool.false_eq_true, if_false, Bool.not_false, if_true]
      omega

end Gathering

end ViewBinding
