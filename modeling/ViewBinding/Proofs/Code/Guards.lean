import Mathlib.Data.List.Basic
import ViewBinding.Proofs.Code.Strokes

/-!
# Guards of levels

A level of indentation is held by a guard. A guard is taken anywhere in a program, kept in some
place, and dropped in any order: by the program, by a block whose body ends and whose places are
emptied, whether the body went through or not. The guards that are alive are recorded beside the
writer, which only counts its levels.

* `Op`: programs that write, take and drop guards, and open blocks.
* `Op.run`: what an operation does on a sink that may refuse any piece.
* `Guarded.Balanced`: there are as many levels as guards.
* `Balanced.run`: every operation keeps that.
* `level_eq_guards`: the levels of a whole program, on every path.
-/

namespace ViewBinding.Code

variable {σ : Type}

/-- Where a guard is kept: in a place of the program, or by the block that took it. -/
inductive Keeper where
  | place (number : Nat)
  | block
  deriving DecidableEq, Repr

/-- An operation of a program. A guard that is taken is put into a place, to those that are there;
one that is dropped is taken out of it, if there is any. A block owns some places: whatever they
hold is dropped when its body is over. -/
inductive Op where
  | output (output : Output)
  | take (place : Nat)
  | drop (place : Nat)
  | block (header trailer : String) (owned : List Nat) (body : List Op)
  deriving Inhabited

/-- A writer with the keepers of the guards that are alive, the newest first. `found` records the
level that each dropped guard found. -/
structure Guarded (σ : Type) where
  writer : Writer σ
  alive : List Keeper := []
  found : List Nat := []

/-- How an operation ends: with the writer and the guards as it leaves them, and whether it
succeeded. -/
abbrev Turn (σ : Type) := Guarded σ × Bool

namespace Guarded

/-- Takes a guard. -/
def take (g : Guarded σ) (keeper : Keeper) : Guarded σ :=
  { g with writer := g.writer.indent, alive := keeper :: g.alive }

/-- Drops the newest guard of a keeper that has one. -/
def drop (g : Guarded σ) (keeper : Keeper) : Guarded σ :=
  if keeper ∈ g.alive then
    { writer := g.writer.dedent 1
      alive := g.alive.erase keeper
      found := g.writer.level :: g.found }
  else g

/-- Drops the guards in some places. -/
def leave (g : Guarded σ) (owned : List Nat) : Guarded σ :=
  (g.alive.filter (· ∈ owned.map Keeper.place)).foldl drop g

/-- Writes, which leaves the guards alone. -/
def writes (g : Guarded σ) (attempt : Writer σ → Attempt σ) : Turn σ :=
  ({ g with writer := (attempt g.writer).1 }, (attempt g.writer).2)

end Guarded

/-- Goes on after a success; a failure ends the operation, and guards are dropped on the way. -/
def Turn.andThen (t : Turn σ) (unwind : Guarded σ → Guarded σ) (next : Guarded σ → Turn σ) :
    Turn σ :=
  if t.2 then next t.1 else (unwind t.1, false)

section

variable (sink : Sink σ)

mutual

/-- Runs an operation. A block holds a level while its body runs. -/
def Op.run (g : Guarded σ) : Op → Turn σ
  | .output o => g.writes (o.put sink)
  | .take place => (g.take (.place place), true)
  | .drop place => (g.drop (.place place), true)
  | .block header trailer owned body =>
    -- The places of the block are emptied before its own level is given back, on every way out.
    Turn.andThen (g.writes (·.openBlock sink header)) (·.leave owned) fun g =>
      Turn.andThen (Op.runBody (g.take .block) body) (fun g => (g.leave owned).drop .block)
        fun g => ((g.leave owned).drop .block).writes (·.closeBlock sink trailer)

/-- Runs the operations of a body up to the first that fails. -/
def Op.runBody (g : Guarded σ) : List Op → Turn σ
  | [] => (g, true)
  | op :: rest => Turn.andThen (Op.run g op) id fun g => Op.runBody g rest

end

/-- Runs all operations, whether or not one of them fails. -/
def Op.runAll (g : Guarded σ) : List Op → Turn σ
  | [] => (g, true)
  | op :: rest =>
    let now := Op.run sink g op
    let later := runAll now.1 rest
    (later.1, now.2 && later.2)

mutual

/-- The operations that are begun inside of an operation, each with what it begins with. -/
def Op.inside (g : Guarded σ) : Op → List (Guarded σ × Op)
  | .block header _ _ body =>
    let head := g.writes (·.openBlock sink header)
    if head.2 then Op.begunBody (head.1.take .block) body else []
  | .output _ | .take _ | .drop _ => []

/-- The operations of a body that are begun, and those inside of them. -/
def Op.begunBody (g : Guarded σ) : List Op → List (Guarded σ × Op)
  | [] => []
  | op :: rest =>
    let now := Op.run sink g op
    (g, op) :: (Op.inside g op ++ if now.2 then Op.begunBody now.1 rest else [])

end

/-- The operations of a whole program that are begun, and those inside of them. -/
def Op.begunAll (g : Guarded σ) : List Op → List (Guarded σ × Op)
  | [] => []
  | op :: rest => (g, op) :: (Op.inside sink g op ++ begunAll (Op.run sink g op).1 rest)

end

/-! ## As many levels as guards -/

/-- There are as many levels as guards, and no guard was dropped at the outermost level. -/
structure Guarded.Balanced (g : Guarded σ) : Prop where
  level : g.writer.level = g.alive.length
  found : ∀ level ∈ g.found, 0 < level

namespace Guarded

variable {g : Guarded σ}

theorem Balanced.take (h : g.Balanced) (keeper : Keeper) : (g.take keeper).Balanced where
  level := congrArg (· + 1) h.level
  found := h.found

/-- The guard that is dropped has a level to give back. -/
theorem Balanced.drop (h : g.Balanced) (keeper : Keeper) : (g.drop keeper).Balanced := by
  unfold Guarded.drop
  split
  · next hmem =>
    have hpos : 0 < g.writer.level := h.level ▸ List.length_pos_of_mem hmem
    refine ⟨?_, List.forall_mem_cons.mpr ⟨hpos, h.found⟩⟩
    rw [List.length_erase_of_mem hmem, ← h.level]
    rfl
  · exact h

/-- What is kept whenever a guard is dropped is kept when places are emptied. -/
theorem leave_induction {P : Guarded σ → Prop} (h : P g)
    (hdrop : ∀ (g : Guarded σ) (keeper : Keeper), P g → P (g.drop keeper)) (owned : List Nat) :
    P (g.leave owned) := by
  -- Which guards are dropped is settled at the start, before any of them is.
  unfold Guarded.leave
  induction g.alive.filter (· ∈ owned.map Keeper.place) generalizing g with
  | nil => exact h
  | cons keeper rest ih => exact ih (hdrop g keeper h)

theorem Balanced.leave (h : g.Balanced) (owned : List Nat) : (g.leave owned).Balanced :=
  leave_induction h (fun _ keeper hg => hg.drop keeper) owned

theorem Balanced.writes (h : g.Balanced) {attempt : Writer σ → Attempt σ}
    (hlevel : ∀ w, (attempt w).1.level = w.level) : (g.writes attempt).1.Balanced :=
  ⟨(hlevel g.writer).trans h.level, h.found⟩

theorem Balanced.andThen {t : Turn σ} {unwind : Guarded σ → Guarded σ}
    {next : Guarded σ → Turn σ} (h : t.1.Balanced)
    (hunwind : ∀ g : Guarded σ, g.Balanced → (unwind g).Balanced)
    (hnext : ∀ g : Guarded σ, g.Balanced → (next g).1.Balanced) :
    (Turn.andThen t unwind next).1.Balanced := by
  unfold Turn.andThen
  split
  · exact hnext t.1 h
  · exact hunwind t.1 h

section

variable (sink : Sink σ)

theorem level_openBlock (w : Writer σ) (header : String) :
    (w.openBlock sink header).1.level = w.level := by
  rw [w.openBlock_eq, w.level_putAll]

theorem level_closeBlock (w : Writer σ) (trailer : String) :
    (w.closeBlock sink trailer).1.level = w.level := by
  rw [w.closeBlock_eq, w.level_putAll]

mutual

/-- An operation keeps the balance, whether it succeeds or fails. -/
theorem Balanced.run {g : Guarded σ} (h : g.Balanced) (op : Op) : (op.run sink g).1.Balanced := by
  cases op with
  | output o =>
    rw [Op.run]
    exact h.writes fun w => by rw [o.put_eq, w.level_putAll]
  | take place =>
    rw [Op.run]
    exact h.take (.place place)
  | drop place =>
    rw [Op.run]
    exact h.drop (.place place)
  | block header trailer owned body =>
    rw [Op.run]
    refine (h.writes (level_openBlock sink · header)).andThen (fun g hg => hg.leave owned) ?_
    intro g hg
    refine ((hg.take .block).runBody body).andThen (fun g hg => (hg.leave owned).drop .block) ?_
    intro g hg
    exact ((hg.leave owned).drop .block).writes (level_closeBlock sink · trailer)

/-- A body keeps the balance. -/
theorem Balanced.runBody {g : Guarded σ} (h : g.Balanced) (body : List Op) :
    (Op.runBody sink g body).1.Balanced := by
  cases body with
  | nil =>
    rw [Op.runBody]
    exact h
  | cons op rest =>
    rw [Op.runBody]
    exact (h.run op).andThen (fun g hg => hg) fun g hg => hg.runBody rest

end

theorem Balanced.runAll (h : g.Balanced) (ops : List Op) :
    (Op.runAll sink g ops).1.Balanced := by
  induction ops generalizing g with
  | nil => exact h
  | cons op rest ih => exact ih (h.run sink op)

mutual

/-- Whatever is begun inside of an operation finds the balance. -/
theorem Balanced.inside {g : Guarded σ} (h : g.Balanced) (op : Op) :
    ∀ step ∈ op.inside sink g, step.1.Balanced := by
  cases op with
  | output o => exact nofun
  | take place => exact nofun
  | drop place => exact nofun
  | block header trailer owned body =>
    rw [Op.inside]
    split
    · exact ((h.writes (level_openBlock sink · header)).take .block).begunBody body
    · exact nofun

theorem Balanced.begunBody {g : Guarded σ} (h : g.Balanced) (body : List Op) :
    ∀ step ∈ Op.begunBody sink g body, step.1.Balanced := by
  cases body with
  | nil => exact nofun
  | cons op rest =>
    rw [Op.begunBody, List.forall_mem_cons, List.forall_mem_append]
    refine ⟨h, h.inside op, ?_⟩
    split
    · exact (h.run sink op).begunBody rest
    · exact nofun

end

theorem Balanced.begunAll (h : g.Balanced) (ops : List Op) :
    ∀ step ∈ Op.begunAll sink g ops, step.1.Balanced := by
  induction ops generalizing g with
  | nil => exact nofun
  | cons op rest ih =>
    rw [Op.begunAll, List.forall_mem_cons, List.forall_mem_append]
    exact ⟨h, h.inside sink op, ih (h.run sink op)⟩

end

/-! ## What a block leaves -/

theorem alive_drop (g : Guarded σ) (keeper : Keeper) :
    (g.drop keeper).alive = g.alive.erase keeper := by
  unfold Guarded.drop
  split
  · rfl
  · next hmem => exact (List.erase_of_not_mem hmem).symm

theorem alive_foldl_drop (g : Guarded σ) (keepers : List Keeper) :
    (keepers.foldl drop g).alive = g.alive.diff keepers := by
  induction keepers generalizing g with
  | nil => rfl
  | cons keeper rest ih => rw [List.foldl_cons, ih, alive_drop, List.diff_cons]

theorem diff_filter {α : Type} [DecidableEq α] (l : List α) (p : α → Prop) [DecidablePred p] :
    l.diff (l.filter p) = l.filter (¬ p ·) := by
  induction l with
  | nil => rfl
  | cons a l ih =>
    by_cases ha : p a
    · rw [List.filter_cons_of_pos (by simpa using ha), List.filter_cons_of_neg (by simpa using ha),
        List.diff_cons, List.erase_cons_head, ih]
    · have hmem : a ∉ l.filter p := fun hmem => ha (by simpa using List.of_mem_filter hmem)
      rw [List.filter_cons_of_neg (by simpa using ha), List.filter_cons_of_pos (by simpa using ha),
        List.cons_diff_of_not_mem hmem, ih]

/-- No guard is left in the places that are emptied, and no other guard is dropped. -/
theorem alive_leave (g : Guarded σ) (owned : List Nat) :
    (g.leave owned).alive = g.alive.filter (· ∉ owned.map Keeper.place) := by
  rw [leave, alive_foldl_drop, diff_filter]

/-- The body of a block drops exactly the guards it takes: when it is over, the guards are alive
that were alive when it began. Where the header is refused there is no body, but the places of the
block are emptied all the same. -/
def DropsWhatItTook (sink : Sink σ) (g : Guarded σ) (header : String) (owned : List Nat)
    (body : List Op) : Prop :=
  let head := g.writes (·.openBlock sink header)
  if head.2 then
    ((Op.runBody sink (head.1.take .block) body).1.leave owned).alive.Perm (.block :: g.alive)
  else (head.1.leave owned).alive.Perm g.alive

instance (sink : Sink σ) (g : Guarded σ) (header : String) (owned : List Nat) (body : List Op) :
    Decidable (g.DropsWhatItTook sink header owned body) :=
  inferInstanceAs (Decidable (ite _ _ _))

/-- If its body drops what it took, a block leaves the guards as it found them, on every path. -/
theorem alive_block {sink : Sink σ} {header trailer : String} {owned : List Nat} {body : List Op}
    (h : DropsWhatItTook sink g header owned body) :
    ((Op.block header trailer owned body).run sink g).1.alive.Perm g.alive := by
  unfold DropsWhatItTook at h
  rw [Op.run, Turn.andThen]
  split
  · next hhead =>
    rw [if_pos hhead] at h
    have hover := h.erase .block
    rw [List.erase_cons_head, ← alive_drop] at hover
    -- Whether the body succeeds or fails, its places are emptied and its level is given back.
    unfold Turn.andThen
    split
    · exact hover
    · exact hover
  · next hhead =>
    rw [if_neg hhead] at h
    exact h

end Guarded

/-- On every sink, whatever it refuses: before and after each operation of a program, those inside
of blocks included, there are as many levels as guards alive, and no guard was dropped at the
outermost level. A block whose body drops the guards that it took leaves the level as it found
it, wherever it succeeds or fails. -/
theorem level_eq_guards (sink : Sink σ) (held : σ) (unit : String) (ops : List Op)
    (before : Guarded σ) (op : Op)
    (hbegun : (before, op) ∈ Op.begunAll sink { writer := { held, unit } } ops) :
    let after := (op.run sink before).1
    (before.writer.level = before.alive.length ∧ after.writer.level = after.alive.length) ∧
    (∀ level ∈ after.found, 0 < level) ∧
    ∀ header trailer owned body, op = .block header trailer owned body →
      before.DropsWhatItTook sink header owned body →
        after.writer.level = before.writer.level := by
  intro after
  have hfresh : (⟨{ held, unit }, [], []⟩ : Guarded σ).Balanced := ⟨rfl, nofun⟩
  have hbefore : before.Balanced := hfresh.begunAll sink ops _ hbegun
  have hafter : after.Balanced := hbefore.run sink op
  refine ⟨⟨hbefore.level, hafter.level⟩, hafter.found, ?_⟩
  rintro header trailer owned body rfl hdrops
  rw [hafter.level, hbefore.level]
  exact (Guarded.alive_block hdrops).length_eq

/-- A block in a block, whose header does not fit any more behind its indentation. -/
theorem level_eq_guards_narrowSink :
    let sink := Sink.bounded 12
    let start : Guarded String := { writer := { held := "", unit := "  " } }
    let inner : Op := .block "b" "" [] [.output (.line "body")]
    let outer : Op := .block "a" ";" [1] [.take 1, inner]
    let before := ((Op.take 0).run sink start).1
    (before, outer) ∈ Op.begunAll sink start [.take 0, outer] ∧
      before.DropsWhatItTook sink "a" [1] [.take 1, inner] ∧
      (outer.run sink before).2 = false ∧
      (outer.run sink before).1.writer.held = "  a \x7b\n      " ∧
      (outer.run sink before).1.writer.level = before.writer.level := by
  intro sink start inner outer before
  have hbegun : (before, outer) ∈ Op.begunAll sink start [.take 0, outer] :=
    by simp [Op.begunAll, Op.inside, before]
  have hdrops : before.DropsWhatItTook sink "a" [1] [.take 1, inner] := by decide +kernel
  have hlaw := level_eq_guards sink "" "  " [.take 0, outer] before outer hbegun
  exact ⟨hbegun, hdrops, by decide +kernel, by decide +kernel,
    hlaw.2.2 "a" ";" [1] [.take 1, inner] rfl hdrops⟩

end ViewBinding.Code
