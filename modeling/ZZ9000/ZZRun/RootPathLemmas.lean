import ZZ9000.ZZRun.RootFiles

/-!
This module shows where the paths of an app lead, that they stay below `ROOT`, and that the locks of
the directories on the way are given back.
-/

namespace ZZRun

open Concurrency Coroutine Trees

section Components

def stepOf (piece : List UInt8) : List (PathStep (List UInt8)) :=
  if piece = [] ∨ piece = [dot, dot] then
    [.parent]
  else if piece = [dot] then
    []
  else
    [.name piece]

/-- What the pieces between the slashes of a path say. Nothing follows a last slash. -/
noncomputable def pathSteps (path : List UInt8) : List (PathStep (List UInt8)) :=
  let pieces := path.splitOn slash
  let last := pieces.getLastD []
  pieces.dropLast.flatMap stepOf ++ if last = [] then [] else stepOf last

/-- All names fit the buffers. -/
def ShortNames (path : List UInt8) : Prop := ∀ piece ∈ path.splitOn slash, piece.length < nameBytes

theorem pathSteps_nil : pathSteps [] = [] := by
  unfold pathSteps
  rw [List.splitOn_nil]
  rfl

theorem pathSteps_slash {name : List UInt8} (hname : slash ∉ name) (rest : List UInt8)
    : pathSteps (name ++ slash :: rest) = stepOf name ++ pathSteps rest := by
  have hpieces : (name ++ slash :: rest).splitOn slash = name :: rest.splitOn slash := by
    rw [List.splitOn_append_cons_self, List.splitOn_eq_singleton hname]
    rfl
  have hne : rest.splitOn slash ≠ [] := List.splitOn_ne_nil slash rest
  unfold pathSteps
  dsimp only
  rw [hpieces, List.dropLast_cons_of_ne_nil hne]
  rw [List.flatMap_cons, List.append_assoc]
  have hlast : (name :: rest.splitOn slash).getLastD [] = (rest.splitOn slash).getLastD [] := by
    cases h : rest.splitOn slash with
    | nil => exact (hne h).elim
    | cons a as => simp
  rw [hlast]

theorem pathSteps_last {name : List UInt8} (hname : slash ∉ name) (hne : name ≠ [])
    : pathSteps name = stepOf name := by
  unfold pathSteps
  rw [List.splitOn_eq_singleton hname]
  simp [hne]

theorem shortNames_nil : ShortNames [] := by
  intro piece h
  rw [List.splitOn_nil, List.mem_singleton] at h
  rw [h]
  decide

theorem shortNames_slash {name : List UInt8} (hname : slash ∉ name) (rest : List UInt8)
    : ShortNames (name ++ slash :: rest) ↔ name.length < nameBytes ∧ ShortNames rest := by
  unfold ShortNames
  rw [List.splitOn_append_cons_self, List.splitOn_eq_singleton hname]
  simp

theorem shortNames_last {name : List UInt8} (hname : slash ∉ name)
    : ShortNames name ↔ name.length < nameBytes := by
  unfold ShortNames
  rw [List.splitOn_eq_singleton hname]
  simp

/-- A name goes up to the next slash, or it is the last one. -/
theorem takeWhile_split (p : List UInt8)
    : slash ∉ p.takeWhile (· != slash)
        ∧ (p = p.takeWhile (· != slash) ∧ p.drop (p.takeWhile (· != slash)).length = []
          ∨ ∃ rest, p = p.takeWhile (· != slash) ++ slash :: rest
            ∧ p.drop (p.takeWhile (· != slash)).length = slash :: rest) := by
  induction p with
  | nil => simp
  | cons c p ih =>
    by_cases hc : c = slash
    . rw [List.takeWhile_cons_of_neg (by simp [hc]), hc]
      exact ⟨List.not_mem_nil, .inr ⟨p, rfl, rfl⟩⟩
    . rw [List.takeWhile_cons_of_pos (by simp [hc])]
      simp only [List.mem_cons, List.length_cons, List.drop_succ_cons, List.cons_append,
        List.cons.injEq, true_and, not_or]
      exact ⟨⟨fun h => hc h.symm, ih.1⟩, ih.2⟩

/-- What `next_comp` has taken, and what it leaves. -/
inductive CompOf : List UInt8 → PathComp → List UInt8 → Prop where
  | last : CompOf [] .last []
  | parent (rest : List UInt8) : CompOf (slash :: rest) .parent rest
  | name {c p rest : List UInt8} (hc : c ≠ []) (hslash : slash ∉ c) (hlen : c.length < nameBytes)
    (hp : p = c ∧ rest = [] ∨ p = c ++ slash :: rest) : CompOf p (.name c) rest

theorem nextComp_some {p rest : List UInt8} {comp : PathComp} (h : nextComp p = some (comp, rest))
    : CompOf p comp rest := by
  unfold nextComp at h
  split at h
  . simp only [Option.some.injEq, Prod.mk.injEq] at h
    rw [← h.1, ← h.2]
    exact .last
  . next c rest' =>
    split at h
    . next hc =>
      simp only [Option.some.injEq, Prod.mk.injEq] at h
      rw [← h.1, ← h.2, hc]
      exact .parent rest'
    . next hc =>
      dsimp only at h
      split at h
      . contradiction
      . next hlen =>
        simp only [Option.some.injEq, Prod.mk.injEq] at h
        rw [← h.1, ← h.2]
        have hsplit := takeWhile_split (c :: rest')
        have hne : (c :: rest').takeWhile (· != slash) ≠ [] := by
          rw [List.takeWhile_cons_of_pos (by simp [hc])]
          exact List.cons_ne_nil _ _
        apply CompOf.name hne hsplit.1 (by omega)
        cases hsplit.2 with
        | inl hlast =>
          rw [hlast.2]
          exact .inl ⟨hlast.1, rfl⟩
        | inr hmore =>
          obtain ⟨rest, hp, hdrop⟩ := hmore
          rw [hdrop]
          exact .inr hp

theorem nextComp_none {p : List UInt8} (h : nextComp p = none) : ¬ShortNames p := by
  unfold nextComp at h
  split at h
  . contradiction
  . next c rest =>
    split at h
    . contradiction
    . dsimp only at h
      split at h
      . next hlen =>
        have hsplit := takeWhile_split (c :: rest)
        intro hshort
        cases hsplit.2 with
        | inl hlast =>
          rw [hlast.1, shortNames_last hsplit.1] at hshort
          omega
        | inr hmore =>
          obtain ⟨rest', hp, _⟩ := hmore
          rw [hp, shortNames_slash hsplit.1] at hshort
          omega
      . contradiction

theorem pathSteps_parent (rest : List UInt8)
    : pathSteps (slash :: rest) = .parent :: pathSteps rest :=
  @pathSteps_slash [] List.not_mem_nil rest

theorem shortNames_parent (rest : List UInt8) : ShortNames (slash :: rest) ↔ ShortNames rest := by
  have := @shortNames_slash [] List.not_mem_nil rest
  rw [List.nil_append] at this
  rw [this]
  simp [nameBytes]

/-- A name is taken off the steps of its path. -/
theorem pathSteps_name {c p rest : List UInt8} (h : CompOf p (.name c) rest)
    : pathSteps p = stepOf c ++ pathSteps rest := by
  cases h with
  | name hc hslash hlen hp =>
    cases hp with
    | inl hlast =>
      rw [hlast.1, hlast.2, pathSteps_last hslash hc]
      rw [pathSteps_nil, List.append_nil]
    | inr hmore => rw [hmore, pathSteps_slash hslash]

theorem shortNames_name {c p rest : List UInt8} (h : CompOf p (.name c) rest)
    : ShortNames p ↔ ShortNames rest := by
  cases h with
  | name hc hslash hlen hp =>
    cases hp with
    | inl hlast =>
      rw [hlast.1, hlast.2, shortNames_last hslash]
      simp [hlen, shortNames_nil]
    | inr hmore =>
      rw [hmore, shortNames_slash hslash]
      simp [hlen]

theorem CompOf.length_lt {p rest : List UInt8} {comp : PathComp} (h : CompOf p comp rest)
    (hcomp : comp ≠ .last)
    : rest.length < p.length := by
  cases h with
  | last => contradiction
  | parent => simp
  | name hc hslash hlen hp =>
    have := List.length_pos_iff.mpr hc
    cases hp with
    | inl hlast =>
      rw [hlast.1, hlast.2]
      exact this
    | inr hmore =>
      rw [hmore, List.length_append, List.length_cons]
      omega

end Components

section Triples

variable {abi : PathAbi} {ν : Type}

/-- The object is below `ROOT`. -/
def DosWorld.Below (opt : RootOptions ν) (w : DosWorld abi ν) (n : ν) : Prop :=
  w.tree.Under opt.root n

/-- `leaf` names an object below `ROOT`, or nothing yet if a file may be created. -/
def DosWorld.Openable (opt : RootOptions ν) (w : DosWorld abi ν) (dir : ν) (leaf : List UInt8)
    (create : Bool)
    : Prop :=
  (∀ n, w.tree.find dir leaf = .ok n → w.Below opt n)
    ∧ ∀ e, w.tree.find dir leaf = .error e → e = .objectNotFound ∧ create = true

/--
What is given back had been taken, what is used is still there, and only an absolute path, which
`ABS` permits, leads out of `ROOT`. A file that is created has a name that leads nowhere.
-/
def DosMark.Proper (opt : RootOptions ν) (m : DosMark ν) (w : DosWorld abi ν) : Prop :=
  match m with
  | .spins => False
  | .unlocks n => n ∈ w.locks
  | .closes n => n ∈ w.handles
  | .frees => 0 < w.blocks
  | .opens dir leaf mode => w.Below opt dir ∧ w.Openable opt dir leaf (mode = .newFile)
  | .opensAbs => opt.absPaths = true
  | .examines n => ∀ m, n = some m → m ∈ w.locks ∧ (opt.absPaths = false → w.Below opt m)
  | .iterates n => ∀ m, n = some m → m ∈ w.locks
  | .uses n => n ∈ w.handles

abbrev dosContract (abi : PathAbi) (opt : RootOptions ν)
    : Contract (DosWorld abi ν) (DosMark ν) Empty :=
  .solo (fun _ _ => True) (DosMark.Proper opt)

/--
The request began in `w₀` and now has these locks, handles and blocks. If no call has failed so far,
then `Q`.
-/
structure Holding (w₀ : DosWorld abi ν) (locks handles : Multiset ν) (blocks : Nat) (Q : Prop)
    (w : DosWorld abi ν) : Prop where
  tree : w.tree = w₀.tree
  files : w.files = w₀.files
  lists : w.lists = w₀.lists
  locks : w.locks = locks
  handles : w.handles = handles
  blocks : w.blocks = blocks
  holds : w.failed = false → Q

variable {opt : RootOptions ν} {w₀ w : DosWorld abi ν} {L H : Multiset ν} {B : Nat} {Q R : Prop}
variable {n dir : ν}

theorem Holding.imp (h : Holding w₀ L H B Q w) (hQR : Q → R) : Holding w₀ L H B R w :=
  { h with holds := fun hfailed => hQR (h.holds hfailed) }

theorem Holding.below (h : Holding w₀ L H B Q w) (n : ν) : w.Below opt n ↔ w₀.Below opt n := by
  unfold DosWorld.Below
  rw [h.tree]

theorem Holding.failed (h : Holding w₀ L H B False w) (Q : Prop) : Holding w₀ L H B Q w :=
  h.imp False.elim

/-- An access goes well, or no promise is left. -/
theorem triple_dosAccess
    : Triple (dosContract abi opt) (Holding w₀ L H B Q) dosAccess
        (fun a w => Holding w₀ L H B (Q ∧ a.fails = none) w) := by
  unfold dosAccess
  apply triple_bind (triple_answer fun w _ hw => hw)
  intro a
  apply triple_bind (J := fun _ w => Holding w₀ L H B (Q ∧ a.fails = none) w)
  . apply triple_modify_solo
    intro w hw
    have hholds : (w.failed || a.fails.isSome) = false → Q ∧ a.fails = none := by
      intro h
      rw [Bool.or_eq_false_iff, Option.isSome_eq_false_iff, Option.isNone_iff_eq_none] at h
      exact ⟨hw.holds h.1, h.2⟩
    dsimp only
    split
    . exact { hw with holds := hholds }
    . exact { hw with holds := hholds }
  . intro _
    exact triple_pure fun w hw => hw

theorem triple_acquire (n : ν)
    : Triple (dosContract abi opt) (Holding w₀ L H B Q) (acquire n)
        (fun _ => Holding w₀ (n ::ₘ L) H B Q) := by
  unfold acquire
  apply triple_modify_solo
  intro w hw
  exact { hw with locks := congrArg (n ::ₘ ·) hw.locks }

theorem triple_read_holding
    : Triple (dosContract abi opt) (Holding w₀ L H B Q) (read : DosService abi ν (DosWorld abi ν))
        (fun w' w => Holding w₀ L H B Q w ∧ Holding w₀ L H B Q w') := by
  apply triple_read
  intro w hw
  exact ⟨hw, hw⟩

theorem triple_dupLock (n : ν)
    : Triple (dosContract abi opt) (Holding w₀ L H B Q) (dupLock n)
        (fun r w => (r = none → Holding w₀ L H B False w)
          ∧ ∀ m, r = some m → m = n ∧ Holding w₀ (n ::ₘ L) H B Q w) := by
  unfold dupLock
  apply triple_bind triple_dosAccess
  intro a
  apply triple_ite
  . intro hfails
    apply triple_pure
    intro w hw
    refine ⟨fun _ => hw.imp ?_, fun m h => (nomatch h)⟩
    intro h
    rw [h.2] at hfails
    contradiction
  . intro _
    apply triple_bind (triple_acquire n)
    intro _
    apply triple_pure
    intro w hw
    exact ⟨fun h => (nomatch h), fun m h => ⟨(Option.some.inj h).symm, hw.imp fun h => h.1⟩⟩

theorem triple_parentDir (n : ν)
    : Triple (dosContract abi opt) (Holding w₀ L H B Q) (parentDir n)
        (fun r w => (r = none → Holding w₀ L H B (Q ∧ w₀.tree.parent n = none) w)
          ∧ ∀ p, r = some p → w₀.tree.parent n = some p ∧ Holding w₀ (p ::ₘ L) H B Q w) := by
  unfold parentDir
  apply triple_bind triple_dosAccess
  intro a
  apply triple_bind (J := fun w' w => Holding w₀ L H B (Q ∧ a.fails = none) w ∧ w'.tree = w₀.tree)
  . apply triple_read
    intro w hw
    exact ⟨hw, hw.tree⟩
  . intro w'
    apply triple_of_fact (fun w hw => hw.2)
    intro htree
    rw [htree]
    cases w₀.tree.parent n with
    | none =>
      apply triple_pure
      intro w hw
      exact ⟨fun _ => hw.1.imp fun h => ⟨h.1, rfl⟩, fun p h => (nomatch h)⟩
    | some p =>
      apply triple_ite
      . intro hfails
        apply triple_pure
        intro w hw
        refine ⟨fun _ => hw.1.imp ?_, fun p h => (nomatch h)⟩
        intro h
        rw [h.2] at hfails
        contradiction
      . intro _
        apply triple_bind (triple_of_pre (fun w hw => hw.1) (triple_acquire p))
        intro _
        apply triple_pure
        intro w hw
        exact ⟨fun h => (nomatch h), fun q h => ⟨h, (Option.some.inj h) ▸ hw.imp fun h => h.1⟩⟩

theorem triple_lockFound (found : Except IoErr ν)
    : Triple (dosContract abi opt) (Holding w₀ L H B Q) (lockFound found)
        (fun r w => (∀ e, r = .error e → Holding w₀ L H B (Q ∧ found = .error e) w
            ∧ (e = .objectNotFound → found = .error e))
          ∧ ∀ n, r = .ok n → found = .ok n ∧ Holding w₀ (n ::ₘ L) H B Q w) := by
  unfold lockFound
  apply triple_bind triple_dosAccess
  intro a
  cases found with
  | error e =>
    apply triple_pure
    intro w hw
    refine ⟨fun e' h => ?_, fun n h => (nomatch h)⟩
    exact ⟨hw.imp fun hQ => ⟨hQ.1, h⟩, fun _ => h⟩
  | ok n =>
    cases a.fails with
    | some failure =>
      apply triple_pure
      intro w hw
      refine ⟨fun e h => ?_, fun n h => (nomatch h)⟩
      rw [← Except.error.inj h]
      exact ⟨hw.imp fun hQ => (nomatch hQ.2), fun hcode => (failure.named hcode).elim⟩
    | none =>
      apply triple_bind (triple_acquire n)
      intro _
      apply triple_pure
      intro w hw
      refine ⟨fun e h => (nomatch h), fun m h => ?_⟩
      rw [← Except.ok.inj h]
      exact ⟨rfl, hw.imp fun hQ => hQ.1⟩

theorem triple_lock (dir : ν) (name : List UInt8)
    : Triple (dosContract abi opt) (Holding w₀ L H B Q) (lock dir name)
        (fun r w => (∀ e, r = .error e →
            Holding w₀ L H B (Q ∧ w₀.tree.find dir name = .error e) w
              ∧ (e = .objectNotFound → w₀.tree.find dir name = .error e))
          ∧ ∀ n, r = .ok n → w₀.tree.find dir name = .ok n ∧ Holding w₀ (n ::ₘ L) H B Q w) := by
  unfold lock
  apply triple_bind triple_read_holding
  intro w'
  apply triple_of_fact (fun w hw => hw.2.tree)
  intro htree
  rw [htree]
  apply triple_of_pre (fun w hw => hw.1)
  exact triple_lockFound _

variable [DecidableEq ν]

theorem triple_unLock (n : ν)
    : Triple (dosContract abi opt) (Holding w₀ (n ::ₘ L) H B Q) (unLock n)
        (fun _ => Holding w₀ L H B Q) := by
  unfold unLock
  apply triple_bind (J := fun _ => Holding w₀ (n ::ₘ L) H B Q)
  . apply triple_note
    intro w hw _
    refine ⟨?_, hw⟩
    show n ∈ w.locks
    rw [hw.locks]
    exact Multiset.mem_cons_self n L
  . intro _
    apply triple_modify_solo
    intro w hw
    refine { hw with locks := ?_ }
    dsimp only
    rw [hw.locks]
    exact Multiset.erase_cons_head n L

/-- The lock that is given back is not the last one that was taken. -/
theorem triple_unLock_second (n m : ν)
    : Triple (dosContract abi opt) (Holding w₀ (n ::ₘ m ::ₘ L) H B Q) (unLock m)
        (fun _ => Holding w₀ (n ::ₘ L) H B Q) := by
  rw [Multiset.cons_swap]
  exact triple_unLock m

/-- The climb decides whether the object is below `ROOT`. -/
theorem triple_climb {passes : Nat} {cur : ν} (hpasses : w₀.tree.depth cur < passes)
    : Triple (dosContract abi opt) (Holding w₀ (cur ::ₘ L) H B Q) (climb opt passes cur)
        (fun r w => (r = true → w₀.Below opt cur)
          ∧ Holding w₀ L H B (Q ∧ (r = false → ¬w₀.Below opt cur)) w) := by
  induction passes generalizing cur with
  | zero => omega
  | succ passes ih =>
    unfold climb
    apply triple_ite
    . intro hcur
      apply triple_bind (triple_unLock cur)
      intro _
      apply triple_pure
      intro w hw
      refine ⟨fun _ => ?_, hw.imp fun h => ⟨h, fun h => (nomatch h)⟩⟩
      rw [hcur]
      exact w₀.tree.under_self opt.root
    . intro hcur
      apply triple_bind (triple_parentDir cur)
      intro r
      cases r with
      | none =>
        apply triple_of_pre (fun w hw => hw.1 rfl)
        apply triple_bind (triple_unLock cur)
        intro _
        apply triple_pure
        intro w hw
        refine ⟨fun h => (nomatch h), hw.imp fun h => ⟨h.1, fun _ => ?_⟩⟩
        exact Forest.not_under_of_orphan h.2 hcur
      | some p =>
        apply triple_of_fact (fun w hw => (hw.2 p rfl).1)
        intro hparent
        apply triple_of_pre (fun w hw => (hw.2 p rfl).2)
        apply triple_bind (triple_unLock_second p cur)
        intro _
        have hdepth := w₀.tree.parent_depth cur p hparent
        have hunder : w₀.Below opt cur ↔ w₀.Below opt p := Forest.under_iff_of_parent hparent hcur
        rw [hunder]
        exact ih (by omega)

theorem triple_underRoot (n : ν)
    : Triple (dosContract abi opt) (Holding w₀ L H B Q) (underRoot opt n)
        (fun r w => (r = true → w₀.Below opt n)
          ∧ Holding w₀ L H B (Q ∧ (r = false → ¬w₀.Below opt n)) w) := by
  unfold underRoot
  apply triple_bind (triple_dupLock n)
  intro r
  cases r with
  | none =>
    apply triple_pure
    intro w hw
    exact ⟨fun h => (nomatch h), (hw.1 rfl).failed _⟩
  | some cur =>
    apply triple_of_fact (fun w hw => (hw.2 cur rfl).1)
    intro hcur
    subst hcur
    apply triple_of_pre (fun w hw => (hw.2 cur rfl).2)
    apply triple_bind triple_read_holding
    intro w'
    apply triple_of_fact (fun w hw => hw.2.tree)
    intro htree
    rw [htree]
    apply triple_of_pre (fun w hw => hw.1)
    exact triple_climb (Nat.lt_succ_self _)

end Triples

section Resolution

variable {abi : PathAbi} {ν : Type}

/-- `enter_dir` looks a name up, and says why there is none. -/
def DosTree.enters (tree : DosTree ν) (dir : ν) (name : List UInt8) : Except Int ν :=
  (tree.find dir name).mapError enterErr

/-- A step of a path that is confined to `ROOT`. -/
noncomputable def DosWorld.enter (opt : RootOptions ν) (w : DosWorld abi ν) (dir : ν)
    (step : PathStep (List UInt8))
    : Except Int ν :=
  Trees.enter w.tree.toForest w.tree.enters zzEacces opt.root dir step

/-- Where a path of an app leads. -/
noncomputable def DosWorld.resolve (opt : RootOptions ν) (w : DosWorld abi ν) (dir : ν)
    (steps : List (PathStep (List UInt8)))
    : Except Int (ν × Option (List UInt8)) :=
  Trees.resolve w.tree.toForest w.tree.enters zzEacces opt.root dir steps

variable {opt : RootOptions ν} {w₀ w : DosWorld abi ν} {L H : Multiset ν} {B : Nat} {Q : Prop}
variable {n cur dir : ν}

theorem enter_parent_none (h : w.tree.parent cur = none)
    : w.enter opt cur .parent = .error zzEacces := by
  simp only [DosWorld.enter, Trees.enter, h]

theorem enter_parent_some (h : w.tree.parent cur = some n)
    : w.enter opt cur .parent = confine w.tree.toForest zzEacces opt.root n := by
  simp only [DosWorld.enter, Trees.enter, h]

theorem enter_name_error {name : List UInt8} {e : IoErr} (h : w.tree.find cur name = .error e)
    : w.enter opt cur (.name name) = .error (enterErr e) := by
  simp only [DosWorld.enter, Trees.enter, DosTree.enters, h, Except.mapError]

theorem enter_name_ok {name : List UInt8} (h : w.tree.find cur name = .ok n)
    : w.enter opt cur (.name name) = confine w.tree.toForest zzEacces opt.root n := by
  simp only [DosWorld.enter, Trees.enter, DosTree.enters, h, Except.mapError]

/-- What entering a directory leaves behind. The lock of the outcome replaces that of `cur`. -/
def Enters (w₀ : DosWorld abi ν) (L H : Multiset ν) (B : Nat) (Q : Prop) (cur : ν)
    (result : Except Int ν) (r : Except Int ν) (w : DosWorld abi ν)
    : Prop :=
  (∀ e, r = .error e → Holding w₀ (cur ::ₘ L) H B (Q ∧ result = .error e) w)
    ∧ ∀ n, r = .ok n → result = .ok n ∧ Holding w₀ (n ::ₘ L) H B Q w

variable [DecidableEq ν]

/-- The directory that has been locked is entered if it is below `ROOT`. -/
theorem triple_confine
    : Triple (dosContract abi opt) (Holding w₀ (n ::ₘ cur ::ₘ L) H B Q)
        (do
          if ← underRoot opt n then
            unLock cur
            return .ok n
          else
            unLock n
            return .error zzEacces)
        (Enters w₀ L H B Q cur (confine w₀.tree.toForest zzEacces opt.root n)) := by
  apply triple_bind (triple_underRoot n)
  intro under
  apply triple_ite
  . intro hunder
    apply triple_of_fact (fun w hw => hw.1 hunder)
    intro hbelow
    apply triple_bind (J := fun _ => Holding w₀ (n ::ₘ L) H B Q)
    . apply triple_of_pre _ (triple_unLock_second n cur)
      exact fun w hw => hw.2.imp fun h => h.1
    . intro _
      apply triple_pure
      intro w hw
      refine ⟨fun e h => (nomatch h), fun m h => ?_⟩
      rw [← Except.ok.inj h]
      exact ⟨confine_of_under hbelow, hw⟩
  . intro hunder
    rw [Bool.not_eq_true] at hunder
    apply triple_bind (J := fun _ => Holding w₀ (cur ::ₘ L) H B (Q ∧ ¬w₀.Below opt n))
    . apply triple_of_pre _ (triple_unLock n)
      exact fun w hw => hw.2.imp fun h => ⟨h.1, h.2 hunder⟩
    . intro _
      apply triple_pure
      intro w hw
      refine ⟨fun e h => ?_, fun m h => (nomatch h)⟩
      rw [← Except.error.inj h]
      exact hw.imp fun h => ⟨h.1, confine_of_not_under h.2⟩

theorem triple_stepParent
    : Triple (dosContract abi opt) (Holding w₀ (cur ::ₘ L) H B Q) (stepParent opt cur)
        (Enters w₀ L H B Q cur (w₀.enter opt cur .parent)) := by
  unfold stepParent
  apply triple_bind (triple_parentDir cur)
  intro r
  cases r with
  | none =>
    apply triple_pure
    intro w hw
    refine ⟨fun e h => ?_, fun m h => (nomatch h)⟩
    rw [← Except.error.inj h]
    exact (hw.1 rfl).imp fun h => ⟨h.1, enter_parent_none h.2⟩
  | some parent =>
    apply triple_of_fact (fun w hw => (hw.2 parent rfl).1)
    intro hparent
    rw [enter_parent_some hparent]
    apply triple_of_pre (fun w hw => (hw.2 parent rfl).2)
    exact triple_confine

theorem triple_enterDir (name : List UInt8)
    : Triple (dosContract abi opt) (Holding w₀ (cur ::ₘ L) H B Q) (enterDir opt cur name)
        (Enters w₀ L H B Q cur (w₀.enter opt cur (.name name))) := by
  unfold enterDir
  apply triple_bind (triple_lock cur name)
  intro r
  cases r with
  | error e =>
    apply triple_pure
    intro w hw
    refine ⟨fun e' h => ?_, fun m h => (nomatch h)⟩
    rw [← Except.error.inj h]
    exact (hw.1 e rfl).1.imp fun h => ⟨h.1, enter_name_error h.2⟩
  | ok child =>
    apply triple_of_fact (fun w hw => (hw.2 child rfl).1)
    intro hfind
    rw [enter_name_ok hfind]
    apply triple_of_pre (fun w hw => (hw.2 child rfl).2)
    exact triple_confine

/-- The step of a name that is held back. -/
def heldSteps (hold : Option (List UInt8)) : List (PathStep (List UInt8)) := hold.toList.map .name

noncomputable def DosWorld.enterHold (opt : RootOptions ν) (w : DosWorld abi ν) (cur : ν)
    (hold : Option (List UInt8))
    : Except Int ν :=
  hold.elim (.ok cur) fun name => w.enter opt cur (.name name)

omit [DecidableEq ν] in
theorem resolve_held (w : DosWorld abi ν) (cur : ν) (hold : Option (List UInt8))
    (step : PathStep (List UInt8)) (steps : List (PathStep (List UInt8)))
    : w.resolve opt cur (heldSteps hold ++ step :: steps)
        = (w.enterHold opt cur hold).bind fun dir => w.resolve opt dir (step :: steps) := by
  cases hold with
  | none => rfl
  | some name => exact resolve_name name step steps

theorem triple_enterHeld (hold : Option (List UInt8))
    : Triple (dosContract abi opt) (Holding w₀ (cur ::ₘ L) H B Q) (enterHeld opt cur hold)
        (Enters w₀ L H B Q cur (w₀.enterHold opt cur hold)) := by
  cases hold with
  | none =>
    apply triple_pure
    intro w hw
    refine ⟨fun e h => (nomatch h), fun n h => ?_⟩
    rw [← Except.ok.inj h]
    exact ⟨rfl, hw⟩
  | some name => exact triple_enterDir name

/--
What `resolve_rel` leaves behind: the directory of a path and what is to be looked up there. Names
that do not fit the buffers are errors of their own.
-/
def Resolves (w₀ : DosWorld abi ν) (L H : Multiset ν) (B : Nat) (Q : Prop) (short : Prop)
    (result : Except Int (ν × Option (List UInt8))) (r : Except Int (ν × List UInt8))
    (w : DosWorld abi ν)
    : Prop :=
  (∀ e, r = .error e → Holding w₀ L H B (Q ∧ (short → result = .error e)) w)
    ∧ ∀ x, r = .ok x → short ∧ Holding w₀ (x.1 ::ₘ L) H B Q w
        ∧ ∃ leaf, result = .ok (x.1, leaf) ∧ x.2 = leaf.getD []

/-- A directory is entered on the way to the result. -/
theorem triple_orUnLock {result : Except Int ν} {short : Prop} {r : Except Int ν}
    {next : ν → DosService abi ν (Except Int (ν × List UInt8))}
    {results : ν → Except Int (ν × Option (List UInt8))}
    (hnext : ∀ n, result = .ok n → Triple (dosContract abi opt) (Holding w₀ (n ::ₘ L) H B Q)
      (next n) (Resolves w₀ L H B Q short (results n)))
    : Triple (dosContract abi opt) (Enters w₀ L H B Q cur result r) (orUnLock cur r next)
        (Resolves w₀ L H B Q short (result.bind results)) := by
  cases r with
  | error err =>
    apply triple_of_pre (fun w hw => hw.1 err rfl)
    apply triple_bind (triple_unLock cur)
    intro _
    apply triple_pure
    intro w hw
    refine ⟨fun e h => ?_, fun x h => (nomatch h)⟩
    rw [← Except.error.inj h]
    refine hw.imp fun hQ => ⟨hQ.1, fun _ => ?_⟩
    rw [hQ.2]
    rfl
  | ok n =>
    apply triple_of_fact (fun w hw => (hw.2 n rfl).1)
    intro hresult
    apply triple_of_pre (fun w hw => (hw.2 n rfl).2)
    rw [hresult]
    exact hnext n hresult

theorem triple_goUp {short : Prop} {hold : Option (List UInt8)}
    {steps : List (PathStep (List UInt8))}
    {next : ν → DosService abi ν (Except Int (ν × List UInt8))}
    (hnext : ∀ n, Triple (dosContract abi opt) (Holding w₀ (n ::ₘ L) H B Q) (next n)
      (Resolves w₀ L H B Q short (w₀.resolve opt n steps)))
    : Triple (dosContract abi opt) (Holding w₀ (cur ::ₘ L) H B Q)
        (do
          orUnLock cur (← enterHeld opt cur hold) fun cur => do
            orUnLock cur (← stepParent opt cur) next)
        (Resolves w₀ L H B Q short (w₀.resolve opt cur (heldSteps hold ++ .parent :: steps))) := by
  rw [resolve_held]
  apply triple_bind (triple_enterHeld hold)
  intro r
  apply triple_orUnLock
  intro n _
  apply triple_bind triple_stepParent
  intro r'
  have hparent : w₀.resolve opt n (.parent :: steps)
      = (w₀.enter opt n .parent).bind fun d => w₀.resolve opt d steps := resolve_parent steps
  rw [hparent]
  exact triple_orUnLock fun d _ => hnext d

/-- The loop agrees with the walk along the steps of the path. -/
theorem triple_resolveLoop {passes : Nat} {p : List UInt8} {hold : Option (List UInt8)}
    (hpasses : p.length < passes)
    (hhold : ∀ name, hold = some name → name.length < nameBytes)
    : Triple (dosContract abi opt) (Holding w₀ (cur ::ₘ L) H B Q)
        (resolveLoop opt passes p cur hold)
        (Resolves w₀ L H B Q (ShortNames p)
          (w₀.resolve opt cur (heldSteps hold ++ pathSteps p))) := by
  induction passes generalizing p cur hold with
  | zero => omega
  | succ passes ih =>
    unfold resolveLoop
    cases hcomp : nextComp p with
    | none =>
      apply triple_bind (triple_unLock cur)
      intro _
      apply triple_pure
      intro w hw
      refine ⟨fun e _ => hw.imp fun h => ⟨h, fun hshort => ?_⟩, fun x h => (nomatch h)⟩
      exact (nextComp_none hcomp hshort).elim
    | some next =>
      obtain ⟨comp, rest⟩ := next
      have hof := nextComp_some hcomp
      have hlength := hof.length_lt
      cases comp with
      | last =>
        cases hof
        rw [pathSteps_nil, List.append_nil]
        have hleaf : (hold.getD []).length < nameBytes := by
          cases hold with
          | none => decide
          | some name => exact hhold name rfl
        apply triple_ite
        . intro hlong
          omega
        . intro _
          apply triple_pure
          intro w hw
          refine ⟨fun e h => (nomatch h), fun x h => ?_⟩
          rw [← Except.ok.inj h]
          refine ⟨shortNames_nil, hw, hold, ?_, rfl⟩
          cases hold with
          | none => rfl
          | some name => rfl
      | parent =>
        cases hof
        rw [pathSteps_parent, shortNames_parent]
        apply triple_goUp
        intro n
        exact ih (by simpa using hpasses) (fun name h => (nomatch h))
      | name c =>
        have hrest : rest.length < passes := by
          have := hlength (fun h => nomatch h)
          omega
        rw [pathSteps_name hof, shortNames_name hof]
        cases hof with
        | name hc hslash hlen hp =>
          apply triple_ite
          . intro hdots
            rw [show stepOf c = [.parent] from if_pos (.inr hdots)]
            apply triple_goUp
            intro n
            exact ih hrest (fun name h => (nomatch h))
          . intro hdots
            apply triple_ite
            . intro hdot
              have hstep : stepOf c = [] := by
                unfold stepOf
                rw [if_neg (not_or.mpr ⟨hc, hdots⟩), if_pos hdot]
              rw [hstep, List.nil_append]
              exact ih hrest hhold
            . intro hdot
              have hstep : stepOf c = [.name c] := by
                unfold stepOf
                rw [if_neg (not_or.mpr ⟨hc, hdots⟩), if_neg hdot]
              rw [hstep, List.singleton_append, resolve_held]
              apply triple_bind (triple_enterHeld hold)
              intro r
              apply triple_orUnLock
              intro n _
              have hheld : heldSteps (some c) ++ pathSteps rest = .name c :: pathSteps rest := rfl
              rw [← hheld]
              apply ih hrest
              intro name h
              rw [← Option.some.inj h]
              exact hlen

theorem triple_resolveRel (path : List UInt8)
    : Triple (dosContract abi opt) (Holding w₀ L H B Q) (resolveRel opt path)
        (Resolves w₀ L H B Q (ShortNames path) (w₀.resolve opt opt.root (pathSteps path))) := by
  unfold resolveRel
  apply triple_bind (triple_dupLock opt.root)
  intro r
  cases r with
  | none =>
    apply triple_pure
    intro w hw
    exact ⟨fun e _ => (hw.1 rfl).failed _, fun x h => (nomatch h)⟩
  | some cur =>
    apply triple_of_fact (fun w hw => (hw.2 cur rfl).1)
    intro hcur
    subst hcur
    apply triple_of_pre (fun w hw => (hw.2 opt.root rfl).2)
    exact triple_resolveLoop (Nat.lt_succ_self _) (fun name h => (nomatch h))

end Resolution

end ZZRun
