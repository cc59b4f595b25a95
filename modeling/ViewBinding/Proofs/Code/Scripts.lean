import ViewBinding.Code.Step
import ViewBinding.Proofs.Code.Guards

/-!
# Scripts as programs with guards

A script says how many levels a list takes and drops. Each list of steps keeps its guards in a place
of its own, numbered by the depth of the blocks around it, and so a script is a program with guards.

* `Step.toOp`: the operation that a step is.
* `Step.Follows`: how the run of an operation stands to the run of a step.
* `Step.follows_run`: a step runs as its operation, on every sink.
* `Step.runScript_eq`: a script runs as its program.
* `Step.level_runScript`: a script ends at the outermost level.
-/

namespace ViewBinding.Code

variable {σ : Type}

namespace Writer

theorem dedent_dedent (w : Writer σ) (m n : Nat) : (w.dedent m).dedent n = w.dedent (n + m) := by
  rw [dedent, dedent, dedent, Nat.sub_sub, Nat.add_comm]

end Writer

namespace Guarded

theorem writer_drop_of_mem {g : Guarded σ} {keeper : Keeper} (h : keeper ∈ g.alive) :
    (g.drop keeper).writer = g.writer.dedent 1 := by
  rw [drop, if_pos h]

theorem drop_of_not_mem {g : Guarded σ} {keeper : Keeper} (h : keeper ∉ g.alive) :
    g.drop keeper = g :=
  if_neg h

theorem writer_foldl_drop {g : Guarded σ} {keepers : List Keeper}
    (h : List.Sublist keepers g.alive) :
    (keepers.foldl drop g).writer = g.writer.dedent keepers.length := by
  induction keepers generalizing g with
  | nil => rfl
  | cons keeper rest ih =>
    have hrest : List.Sublist rest (g.drop keeper).alive := by
      have herase := h.erase keeper
      rwa [List.erase_cons_head, ← alive_drop] at herase
    rw [List.foldl_cons, ih hrest, writer_drop_of_mem (h.subset List.mem_cons_self),
      Writer.dedent_dedent, List.length_cons]

theorem leave_of_count_eq_zero {g : Guarded σ} {place : Nat}
    (h : g.alive.count (.place place) = 0) : g.leave [place] = g := by
  have hnone : g.alive.filter (· ∈ [place].map Keeper.place) = [] := by
    rw [List.filter_eq_nil_iff]
    intro keeper hmem hplace
    obtain rfl : keeper = .place place := by simpa using hplace
    exact List.count_eq_zero.mp h hmem
  rw [leave, hnone, List.foldl_nil]

/-- A place gives back as many levels as it holds guards. -/
theorem writer_leave_singleton (g : Guarded σ) (place : Nat) :
    (g.leave [place]).writer = g.writer.dedent (g.alive.count (.place place)) := by
  rw [leave, writer_foldl_drop List.filter_sublist, List.count_eq_length_filter]
  simp [beq_eq_decide]

theorem count_leave_singleton (g : Guarded σ) (place : Nat) (keeper : Keeper) :
    (g.leave [place]).alive.count keeper =
      if keeper = .place place then 0 else g.alive.count keeper := by
  rw [alive_leave]
  split
  · next h => exact List.count_eq_zero_of_not_mem (by simp [h])
  · next h => exact List.count_filter (by simpa using h)

end Guarded

namespace Step

mutual

/-- The step as an operation, in a list that stands in `depth` blocks. -/
def toOp (depth : Nat) : Step → Op
  | .write text => .output (.text text)
  | .line text => .output (.line text)
  | .blankLine => .output .blankLine
  | .comment text => .output (.comment text)
  | .indent => .take depth
  | .dedent => .drop depth
  | .block header trailer body => .block header trailer [depth + 1] (toOps (depth + 1) body)

/-- The steps of a list as operations. -/
def toOps (depth : Nat) : List Step → List Op
  | [] => []
  | step :: rest => toOp depth step :: toOps depth rest

end

/-- Operations that were begun with the guards `alive` end as steps do: with the same writer, as
many guards in the place of the list as it holds levels, and all other guards as they were. -/
structure Follows (depth : Nat) (alive : List Keeper) (t : Turn σ) (p : Progress σ) : Prop where
  writer : t.1.writer = p.writer
  ok : t.2 = p.ok
  taken : t.1.alive.count (.place depth) = p.taken
  others : ∀ keeper, keeper ≠ .place depth → t.1.alive.count keeper = alive.count keeper

/-- No list in a deeper block holds a guard. -/
def FreeBelow (depth : Nat) (alive : List Keeper) : Prop :=
  ∀ n, depth < n → alive.count (.place n) = 0

section

variable {depth : Nat} {alive : List Keeper} {t : Turn σ} {p : Progress σ}

theorem Follows.freeBelow (h : Follows depth alive t p) (hfree : FreeBelow depth alive) :
    FreeBelow depth t.1.alive := by
  intro n hn
  rw [h.others (.place n) (by simpa using Nat.ne_of_gt hn), hfree n hn]

/-- Inside of a block, the list of its body does not hold a guard yet. -/
theorem FreeBelow.count_block (hfree : FreeBelow depth alive) {n : Nat} (hn : depth < n) :
    (Keeper.block :: alive).count (.place n) = 0 := by
  have hne : Keeper.block ≠ .place n := nofun
  rw [List.count_cons_of_ne hne, hfree n hn]

/-- When a body is over, the levels that it still holds are given back and the level of the block
with them. The guards are those that were there before the block. -/
theorem Follows.over (h : Follows (depth + 1) (.block :: alive) t p)
    (hfree : FreeBelow depth alive) :
    ((t.1.leave [depth + 1]).drop .block).writer = (p.writer.dedent p.taken).dedent 1 ∧
      ∀ keeper, ((t.1.leave [depth + 1]).drop .block).alive.count keeper = alive.count keeper := by
  -- The body only takes and drops in its own place, so the level of the block is still held.
  have hblock : t.1.alive.count .block = alive.count .block + 1 :=
    (h.others .block nofun).trans List.count_cons_self
  have hmem : .block ∈ (t.1.leave [depth + 1]).alive := by
    rw [← List.count_pos_iff, Guarded.count_leave_singleton, if_neg nofun, hblock]
    exact Nat.succ_pos _
  refine ⟨?_, fun keeper => ?_⟩
  · rw [Guarded.writer_drop_of_mem hmem, Guarded.writer_leave_singleton, h.taken, h.writer]
  · rw [Guarded.alive_drop, List.count_erase, Guarded.count_leave_singleton]
    -- The place of the body was empty before the block, and no other list changes its guards.
    by_cases hplace : keeper = .place (depth + 1)
    · rw [if_pos hplace, hplace, hfree (depth + 1) (Nat.lt_succ_self depth)]
      rfl
    · rw [if_neg hplace, h.others keeper hplace, ← List.count_erase, List.erase_cons_head]

end

variable (sink : Sink σ)

theorem run_block (w : Writer σ) (taken : Nat) (header trailer : String) (body : List Step) :
    run sink w taken (.block header trailer body) =
      let head := w.openBlock sink header
      if head.2 then
        let inside := runBody sink head.1.indent 0 body
        finish sink (sink.size w.held) inside.traces taken <|
          Attempt.andThen ((inside.writer.dedent inside.taken).dedent 1, inside.ok)
            (·.closeBlock sink trailer)
      else finish sink (sink.size w.held) [] taken head := by
  rw [run]
  rfl

/-- A body that is over is closed if it succeeded. -/
theorem Follows.close {depth : Nat} {alive : List Keeper} {t : Turn σ} {p : Progress σ}
    (h : Follows (depth + 1) (.block :: alive) t p) (hfree : FreeBelow depth alive)
    (trailer : String) (start : Nat) :
    Follows depth alive
      (t.andThen (fun g => (g.leave [depth + 1]).drop .block)
        fun g => ((g.leave [depth + 1]).drop .block).writes (·.closeBlock sink trailer))
      (finish sink start p.traces (alive.count (.place depth)) <|
        Attempt.andThen ((p.writer.dedent p.taken).dedent 1, p.ok)
          (·.closeBlock sink trailer)) := by
  obtain ⟨hwriter, hcount⟩ := h.over hfree
  rw [Turn.andThen, Attempt.andThen, h.ok, ← hwriter]
  cases p.ok with
  | false => exact ⟨rfl, rfl, hcount _, fun keeper _ => hcount keeper⟩
  | true => exact ⟨rfl, rfl, hcount _, fun keeper _ => hcount keeper⟩

mutual

/-- A step runs as its operation. -/
theorem follows_run (depth : Nat) (g : Guarded σ) (hfree : FreeBelow depth g.alive) (step : Step) :
    Follows depth g.alive ((step.toOp depth).run sink g)
      (run sink g.writer (g.alive.count (.place depth)) step) := by
  cases step with
  | write text =>
    rw [toOp, Op.run, run]
    exact ⟨rfl, rfl, rfl, fun _ _ => rfl⟩
  | line text =>
    rw [toOp, Op.run, run]
    exact ⟨rfl, rfl, rfl, fun _ _ => rfl⟩
  | blankLine =>
    rw [toOp, Op.run, run]
    exact ⟨rfl, rfl, rfl, fun _ _ => rfl⟩
  | comment text =>
    rw [toOp, Op.run, run]
    exact ⟨rfl, rfl, rfl, fun _ _ => rfl⟩
  | indent =>
    rw [toOp, Op.run, run]
    exact ⟨rfl, rfl, List.count_cons_self, fun keeper hne => List.count_cons_of_ne hne.symm⟩
  | dedent =>
    rw [toOp, Op.run]
    cases hcount : g.alive.count (.place depth) with
    | zero =>
      rw [run, Guarded.drop_of_not_mem (List.count_eq_zero.mp hcount)]
      exact ⟨rfl, rfl, hcount, fun _ _ => rfl⟩
    | succ taken =>
      have hmem : .place depth ∈ g.alive := List.count_pos_iff.mp (by omega)
      rw [run]
      refine ⟨Guarded.writer_drop_of_mem hmem, rfl, ?_, fun keeper hne => ?_⟩
      · rw [Guarded.alive_drop, List.count_erase_self, hcount]
        rfl
      · rw [Guarded.alive_drop, List.count_erase_of_ne hne]
  | block header trailer body =>
    rw [toOp, Op.run, run_block, Turn.andThen]
    by_cases hhead : (g.writer.openBlock sink header).2 = true
    · let inner : Guarded σ := (g.writes (·.openBlock sink header)).1.take .block
      have hbelow : FreeBelow (depth + 1) inner.alive := fun n hn =>
        hfree.count_block (Nat.lt_of_succ_lt hn)
      have hnone : inner.alive.count (.place (depth + 1)) = 0 :=
        hfree.count_block (Nat.lt_succ_self depth)
      have hbody := follows_runBody (depth + 1) inner hbelow body
      rw [hnone] at hbody
      have hwritten : (g.writes (·.openBlock sink header)).2 = true := hhead
      rw [if_pos hwritten, if_pos hhead]
      exact hbody.close sink hfree trailer (sink.size g.writer.held)
    · have hwritten : ¬ (g.writes (·.openBlock sink header)).2 = true := hhead
      have hleave : (g.writes (·.openBlock sink header)).1.leave [depth + 1] =
          (g.writes (·.openBlock sink header)).1 :=
        Guarded.leave_of_count_eq_zero (hfree (depth + 1) (Nat.lt_succ_self depth))
      rw [if_neg hwritten, if_neg hhead, hleave]
      exact ⟨rfl, (Bool.eq_false_iff.mpr hhead).symm, rfl, fun _ _ => rfl⟩

/-- A body runs as its operations. -/
theorem follows_runBody (depth : Nat) (g : Guarded σ) (hfree : FreeBelow depth g.alive)
    (steps : List Step) :
    Follows depth g.alive (Op.runBody sink g (toOps depth steps))
      (runBody sink g.writer (g.alive.count (.place depth)) steps) := by
  cases steps with
  | nil =>
    rw [toOps, Op.runBody, runBody]
    exact ⟨rfl, rfl, rfl, fun _ _ => rfl⟩
  | cons step rest =>
    have hstep := follows_run depth g hfree step
    rw [toOps, Op.runBody, runBody, Turn.andThen, hstep.ok]
    split
    · have hrest := follows_runBody depth _ (hstep.freeBelow hfree) rest
      rw [hstep.writer, hstep.taken] at hrest
      exact ⟨hrest.writer, hrest.ok, hrest.taken, fun keeper hne =>
        (hrest.others keeper hne).trans (hstep.others keeper hne)⟩
    · next hok =>
      exact ⟨hstep.writer, (Bool.eq_false_iff.mpr hok).symm, hstep.taken, hstep.others⟩

end

theorem follows_runAll (depth : Nat) (g : Guarded σ) (hfree : FreeBelow depth g.alive)
    (steps : List Step) :
    Follows depth g.alive (Op.runAll sink g (toOps depth steps))
      (runAll sink g.writer (g.alive.count (.place depth)) steps) := by
  induction steps generalizing g with
  | nil =>
    rw [toOps, Op.runAll, runAll]
    exact ⟨rfl, rfl, rfl, fun _ _ => rfl⟩
  | cons step rest ih =>
    have hstep := follows_run sink depth g hfree step
    have hrest := ih _ (hstep.freeBelow hfree)
    rw [hstep.writer, hstep.taken] at hrest
    rw [toOps, Op.runAll, runAll, hstep.ok]
    exact ⟨hrest.writer, congrArg (_ && ·) hrest.ok, hrest.taken, fun keeper hne =>
      (hrest.others keeper hne).trans (hstep.others keeper hne)⟩

/-- A script runs as its program. At its end the guards of the outermost list are dropped. -/
theorem runScript_eq (held : σ) (unit : String) (steps : List Step) :
    let script := runScript sink { held, unit } steps
    let program := Op.runAll sink { writer := { held, unit } } (toOps 0 steps)
    script.writer = (program.1.leave [0]).writer ∧ script.ok = program.2 := by
  have hfollows := follows_runAll sink 0 { writer := { held, unit } } (fun _ _ => rfl) steps
  refine ⟨?_, hfollows.ok.symm⟩
  rw [Guarded.writer_leave_singleton, hfollows.taken, hfollows.writer]
  rfl

/-- A script ends at the outermost level, whatever the sink refuses. -/
theorem level_runScript (held : σ) (unit : String) (steps : List Step) :
    (runScript sink { held, unit } steps).writer.level = 0 := by
  let fresh : Guarded σ := { writer := { held, unit } }
  have hfresh : fresh.Balanced := ⟨rfl, nofun⟩
  have hbalanced := (hfresh.runAll sink (toOps 0 steps)).leave [0]
  have hfollows := follows_runAll sink 0 fresh (fun _ _ => rfl) steps
  -- Guards are only ever in the place of the outermost list, which is emptied at the end.
  have hempty : ((Op.runAll sink fresh (toOps 0 steps)).1.leave [0]).alive = [] := by
    refine List.eq_nil_iff_forall_not_mem.mpr fun keeper => List.count_eq_zero.mp ?_
    rw [Guarded.count_leave_singleton]
    split
    · rfl
    · next hne => exact hfollows.others keeper hne
  rw [(runScript_eq sink held unit steps).1, hbalanced.level, hempty, List.length_nil]

end Step

end ViewBinding.Code
