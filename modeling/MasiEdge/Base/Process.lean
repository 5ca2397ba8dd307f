/-
Processes over a shared store.

A process is a tree of commands: it asks for one command after the other and goes on with the answer. What a command does
to the store is given from outside, together with what the environment contributes to the answer, so a process can be
stopped between any two commands and others may run in between. A world is a store and its processes; a run starts
processes, lets any of them do its next command, stops one, or changes the store from outside.

`Ensures` is the judgement for one process among others: whatever the others do within `rely`, its next command meets `guard`,
the same holds after every answer, and the process ends with `post`. `Safe` is the case without a `post`.

* `ensures_ask`: the rule for one command; `ensures_bind`: for one process after another; `safe_of_issues`: for a process
  whose commands are known, with a fact that nothing destroys;
* `Sound.step`: a world in which every process under way keeps its contract stays one; `Sound.run`: in every run;
  `Sound.finishes`: a process that comes to its end has reached its `post`;
* `Ensures.alone`: a process that is left alone ends with its `post`; `steps_alone`: steps of a world do it.
-/
import MasiEdge.Base.Run

namespace MasiEdge.Process

open Run List

/-- commands, and the type of the answer to each -/
structure Signature where
  Cmd : Type
  Ans : Cmd → Type

inductive Proc (S : Signature) (α : Type) where
  | done (a : α)
  | ask (c : S.Cmd) (k : S.Ans c → Proc S α)

variable {S : Signature} {α β : Type} {f : α → Proc S β} {c : S.Cmd} {k : S.Ans c → Proc S α}

def Proc.bind : Proc S α → (α → Proc S β) → Proc S β
  | .done a, f => f a
  | .ask c k, f => .ask c fun r => (k r).bind f

/-- every command the process may ask for -/
def Proc.Issues (P : S.Cmd → Prop) : Proc S α → Prop
  | .done _ => True
  | .ask c k => P c ∧ ∀ r, (k r).Issues P

theorem Proc.Issues.imp {P Q : S.Cmd → Prop} {p : Proc S α} (h : p.Issues P) (himp : ∀ c, P c → Q c) : p.Issues Q := by
  induction p with
  | done => trivial
  | ask c _ ih => exact ⟨himp c h.1, fun r => ih r (h.2 r)⟩

/-! ## One process among others -/

section

variable {σ E : Type}

/-- what a process relies on and what it has to keep -/
structure Contract (S : Signature) (σ E : Type) where
  /-- what a command does: the environment, the command, the store -/
  act : E → (c : S.Cmd) → σ → S.Ans c × σ
  inv : σ → Prop
  /-- what the others may do -/
  rely : σ → σ → Prop
  /-- when a command may be asked for -/
  guard : S.Cmd → σ → Prop
  /-- the environments the process is answered from -/
  env : E → Prop := fun _ => True
  refl : ∀ s, rely s s
  trans : ∀ {s t u}, rely s t → rely t u → rely s u

variable (C : Contract S σ E) {p : Proc S α} {post : α → σ → Prop} {s : σ} {F : σ → Prop}

/-- the process keeps its contract, and ends with `post` -/
def Ensures (post : α → σ → Prop) : Proc S α → σ → Prop
  | .done a, s => post a s
  | .ask c k, s => ∀ t, C.rely s t → C.inv t →
      C.guard c t ∧ ∀ e, C.env e → Ensures post (k (C.act e c t).1) (C.act e c t).2

def Safe (p : Proc S α) (s : σ) : Prop := Ensures C (fun _ _ => True) p s

variable {C}

theorem Ensures.stable {t : σ} (h : Ensures C post p s) (hst : C.rely s t)
    (hpost : ∀ a, p = .done a → post a s → post a t) : Ensures C post p t := by
  cases p with
  | done a => exact hpost a rfl h
  | ask => exact fun u htu => h u (C.trans hst htu)

theorem ensures_ask
    (h : ∀ t, C.rely s t → C.inv t → C.guard c t ∧ ∀ e, C.env e → Ensures C post (k (C.act e c t).1) (C.act e c t).2) :
    Ensures C post (.ask c k) s := h

theorem Ensures.imp {post' : α → σ → Prop} (h : Ensures C post p s) (himp : ∀ a s, post a s → post' a s) :
    Ensures C post' p s := by
  induction p generalizing s with
  | done a => exact himp a s h
  | ask _ _ ih =>
    intro t hst hinv
    obtain ⟨hguard, hnext⟩ := h t hst hinv
    exact ⟨hguard, fun e he => ih _ (hnext e he)⟩

/-- one process after another -/
theorem ensures_bind {mid : α → σ → Prop} {post : β → σ → Prop} (hp : Ensures C mid p s)
    (hf : ∀ a t, mid a t → Ensures C post (f a) t) : Ensures C post (p.bind f) s := by
  induction p generalizing s with
  | done a => exact hf a s hp
  | ask _ _ ih =>
    intro t hst hinv
    obtain ⟨hguard, hnext⟩ := hp t hst hinv
    exact ⟨hguard, fun e he => ih _ (hnext e he)⟩

/-- a fact that neither the others nor the process itself destroy -/
structure Stable (C : Contract S σ E) (F : σ → Prop) : Prop where
  rely : ∀ s t, C.rely s t → F s → F t
  act : ∀ e c s, C.inv s → C.guard c s → F s → F (C.act e c s).2

theorem stable_true : Stable C fun _ => True := ⟨fun _ _ _ _ => trivial, fun _ _ _ _ _ _ => trivial⟩

/-- a stable fact holds at the end -/
theorem Safe.carry (hF : Stable C F) (hs : F s) (hp : Safe C p s) : Ensures C (fun _ => F) p s := by
  induction p generalizing s with
  | done => exact hs
  | ask c _ ih =>
    intro t hst hinv
    obtain ⟨hguard, hnext⟩ := hp t hst hinv
    exact ⟨hguard, fun e he => ih _ (hF.act e c t hinv hguard (hF.rely s t hst hs)) (hnext e he)⟩

/-- one process after another, with a stable fact for the second -/
theorem safe_bind (hF : Stable C F) (hs : F s) (hp : Safe C p s) (hf : ∀ a t, F t → Safe C (f a) t) :
    Safe C (p.bind f) s :=
  ensures_bind (hp.carry hF hs) hf

/-- nothing is asked of the commands -/
theorem safe_of_guard (h : ∀ c s, C.guard c s) (p : Proc S α) (s : σ) : Safe C p s := by
  induction p generalizing s with
  | done => trivial
  | ask c _ ih => exact fun t _ _ => ⟨h c t, fun e _ => ih _ _⟩

/-- a process whose commands are allowed wherever a stable fact holds -/
theorem safe_of_issues (hF : Stable C F) (hs : F s) (hp : p.Issues fun c => ∀ t, C.inv t → F t → C.guard c t) :
    Safe C p s := by
  induction p generalizing s with
  | done => trivial
  | ask c _ ih =>
    intro t hst hinv
    have ht := hF.rely s t hst hs
    have hguard := hp.1 t hinv ht
    exact ⟨hguard, fun e _ => ih _ (hF.act e c t hinv hguard ht) (hp.2 _)⟩

end

/-! ## Worlds -/

/-- what the processes of a world are, and what else may happen to the store -/
structure System (S : Signature) (σ E J X α : Type) where
  act : E → (c : S.Cmd) → σ → S.Ans c × σ
  body : J → Proc S α
  outside : X → σ → σ

/-- a process and what it was started for; one that was stopped is not live -/
structure Thread (S : Signature) (J α : Type) where
  job : J
  proc : Proc S α
  live : Bool

structure World (S : Signature) (σ J α : Type) where
  store : σ
  threads : List (Thread S J α)

inductive Op (E J X : Type) where
  | spawn (job : J)
  | advance (index : ℕ) (env : E)
  | crash (index : ℕ)
  | outside (x : X)

variable {σ E J X : Type} {e : E} {t : Thread S J α} {s : σ} {sys : System S σ E J X α} {post : α → σ → Prop}

/-- do the next command of a process -/
def Thread.next (sys : System S σ E J X α) (e : E) (t : Thread S J α) (s : σ) : Thread S J α × σ :=
  if t.live = true then
    match t.proc with
    | .done _ => (t, s)
    | .ask c k =>
      let (r, s') := sys.act e c s
      ({ t with proc := k r }, s')
  else (t, s)

theorem Thread.next_ask (sys : System S σ E J X α) (live : t.live = true)
    (h : t.proc = .ask c k) : t.next sys e s = ({ t with proc := k (sys.act e c s).1 }, (sys.act e c s).2) := by
  rw [Thread.next, if_pos live, h]

theorem Thread.next_done (sys : System S σ E J X α) {a : α} (h : t.proc = .done a) : t.next sys e s = (t, s) := by
  rw [Thread.next, h, ite_self]

theorem Thread.next_stopped (sys : System S σ E J X α) (h : ¬ t.live = true) : t.next sys e s = (t, s) := if_neg h

/-- the command a live process asks for next -/
def Thread.cmd? (t : Thread S J α) : Option S.Cmd :=
  if t.live = true then
    match t.proc with
    | .done _ => none
    | .ask c _ => some c
  else none

theorem Thread.cmd?_ask (live : t.live = true) (h : t.proc = .ask c k) :
    t.cmd? = some c := by
  rw [Thread.cmd?, if_pos live, h]

def Thread.stop (t : Thread S J α) : Thread S J α := { t with live := false }

def step (sys : System S σ E J X α) (w : World S σ J α) : Op E J X → World S σ J α
  | .spawn job => { w with threads := w.threads ++ [⟨job, sys.body job, true⟩] }
  | .advance index e =>
    match w.threads[index]? with
    | none => w
    | some t =>
      let (t', s') := t.next sys e w.store
      ⟨s', w.threads.set index t'⟩
  | .crash index =>
    match w.threads[index]? with
    | none => w
    | some t => { w with threads := w.threads.set index t.stop }
  | .outside x => { w with store := sys.outside x w.store }

def run (sys : System S σ E J X α) (s : σ) (ops : List (Op E J X)) : World S σ J α := ops.foldl (step sys) ⟨s, []⟩

theorem run_snoc (sys : System S σ E J X α) (s : σ) (ops : List (Op E J X)) (op : Op E J X) :
    run sys s (ops ++ [op]) = step sys (run sys s ops) op := by
  simp [run]

/-- everything a step can do -/
inductive Stepped (sys : System S σ E J X α) (w : World S σ J α) : Op E J X → World S σ J α → Prop
  | idle (op) : Stepped sys w op w
  | spawned (job) : Stepped sys w (.spawn job) { w with threads := w.threads ++ [⟨job, sys.body job, true⟩] }
  | advanced (index : ℕ) (e : E) (t : Thread S J α) (c : S.Cmd) (k : S.Ans c → Proc S α)
      (found : w.threads[index]? = some t) (live : t.live = true) (next : t.proc = .ask c k) :
      Stepped sys w (.advance index e)
        ⟨(sys.act e c w.store).2, w.threads.set index { t with proc := k (sys.act e c w.store).1 }⟩
  | stopped (index : ℕ) (t : Thread S J α) (found : w.threads[index]? = some t) :
      Stepped sys w (.crash index) { w with threads := w.threads.set index t.stop }
  | changed (x : X) : Stepped sys w (.outside x) { w with store := sys.outside x w.store }

/-- to put an element where it is changes nothing -/
theorem set_same {γ : Type} {l : List γ} {i : ℕ} {a : γ} (h : l[i]? = some a) : l.set i a = l := by
  obtain ⟨hi, rfl⟩ := List.getElem?_eq_some_iff.1 h
  exact set_getElem_self hi

/-- what stands at an index afterwards: the new element, or the one that stood there before -/
theorem set_cases {γ : Type} {l : List γ} {i n : ℕ} {a x : γ} (h : (l.set i a)[n]? = some x) :
    (i = n ∧ x = a) ∨ (i ≠ n ∧ l[n]? = some x) := by
  rw [getElem?_set] at h
  split_ifs at h with hn
  · exact .inl ⟨hn, (Option.some.inj h).symm⟩
  · exact .inr ⟨hn, h⟩

theorem step_stepped (sys : System S σ E J X α) (w : World S σ J α) (op : Op E J X) : Stepped sys w op (step sys w op) := by
  cases op with
  | spawn job => exact .spawned job
  | outside x => exact .changed x
  | crash index =>
    simp only [step]
    split
    · exact .idle _
    · rename_i t ht
      exact .stopped index t ht
  | advance index e =>
    simp only [step]
    split
    · exact .idle _
    · rename_i t ht
      by_cases hlive : t.live = true
      · cases hproc : t.proc with
        | done =>
          rw [Thread.next_done sys hproc, set_same ht]
          exact .idle _
        | ask c k =>
          rw [Thread.next_ask sys hlive hproc]
          exact .advanced index e t c k ht hlive hproc
      · rw [Thread.next_stopped sys hlive, set_same ht]
        exact .idle _

/-- a step leaves the store alone, does a command for a process, or comes from outside -/
theorem step_store {P : σ → Prop} {w : World S σ J α} {op : Op E J X} (h : P w.store)
    (houtside : ∀ x, op = .outside x → P (sys.outside x w.store))
    (hact : ∀ index e t c k, op = .advance index e → w.threads[index]? = some t → t.live = true → t.proc = .ask c k →
      P (sys.act e c w.store).2) : P (step sys w op).store := by
  have hstep := step_stepped sys w op
  generalize step sys w op = w' at hstep
  cases hstep with
  | advanced index e t c k found live next => exact hact index e t c k rfl found live next
  | changed x => exact houtside x rfl
  | _ => exact h

/-- the contract of each job, over the commands of one system -/
structure Discipline (sys : System S σ E J X α) where
  contract : J → Contract S σ E
  /-- what a job ends with -/
  post : J → α → σ → Prop := fun _ _ _ => True
  /-- jobs that are under way once at a time -/
  exclusive : J → Prop := fun _ => False
  act : ∀ job, (contract job).act = sys.act
  inv : σ → Prop
  sameInv : ∀ job, (contract job).inv = inv
  /-- a command that is allowed keeps the invariant and what every other process relies on -/
  keeps : ∀ job e c s, inv s → (contract job).guard c s → (contract job).env e →
    inv (sys.act e c s).2 ∧ ∀ other, (other = job → ¬ exclusive job) → (contract other).rely s (sys.act e c s).2

/-- the invariant holds, and every process that is under way keeps its contract -/
structure Sound (D : Discipline sys) (w : World S σ J α) : Prop where
  inv : D.inv w.store
  safe : ∀ t ∈ w.threads, t.cmd? ≠ none → Ensures (D.contract t.job) (D.post t.job) t.proc w.store
  single : ∀ (i j : ℕ) (t u : Thread S J α), w.threads[i]? = some t → w.threads[j]? = some u → t.cmd? ≠ none →
    u.cmd? ≠ none → t.job = u.job → D.exclusive t.job → i = j

/-- what a step from outside has to respect: the processes that are under way -/
def Respects (D : Discipline sys) (w : World S σ J α) : Op E J X → Prop
  | .spawn job => Ensures (D.contract job) (D.post job) (sys.body job) w.store ∧
      (D.exclusive job → ∀ t ∈ w.threads, t.cmd? ≠ none → t.job ≠ job)
  | .advance index e => ∀ t ∈ w.threads[index]?, t.cmd? ≠ none → (D.contract t.job).env e
  | .crash _ => True
  | .outside x => D.inv (sys.outside x w.store) ∧
      ∀ t ∈ w.threads, t.cmd? ≠ none → (D.contract t.job).rely w.store (sys.outside x w.store)

section

variable {D : Discipline sys} {w : World S σ J α} {t : Thread S J α}

variable (h : Sound D w) (ht : t ∈ w.threads) (hlive : t.live = true) (hnext : t.proc = .ask c k)
include h ht hlive hnext

/-- what a sound world knows of the command that a process asks for -/
theorem Sound.asked :
    (D.contract t.job).guard c w.store ∧ ∀ e, (D.contract t.job).env e →
      Ensures (D.contract t.job) (D.post t.job) (k (sys.act e c w.store).1) (sys.act e c w.store).2 := by
  have hsafe := h.safe t ht (by simp [Thread.cmd?_ask hlive hnext])
  rw [hnext] at hsafe
  have hstep := hsafe w.store ((D.contract t.job).refl _) (by rw [D.sameInv]; exact h.inv)
  rw [D.act] at hstep
  exact hstep

/-- a command that is asked for by a sound world is allowed -/
theorem Sound.guard : (D.contract t.job).guard c w.store := (h.asked ht hlive hnext).1

/-- a process ends as it has to -/
theorem Sound.finishes (he : (D.contract t.job).env e) {a : α} (hdone : k (sys.act e c w.store).1 = .done a) :
    D.post t.job a (sys.act e c w.store).2 := by
  have hend := (h.asked ht hlive hnext).2 e he
  rw [hdone] at hend
  exact hend

end

variable {D : Discipline sys}

/-- a process that is under way stays as it is while the others keep to its rely -/
theorem ensures_of_cmd {C : Contract S σ E} {s' : σ} (hcmd : t.cmd? ≠ none) (h : Ensures C post t.proc s)
    (hrely : C.rely s s') : Ensures C post t.proc s' := by
  refine h.stable hrely fun a hdone => ?_
  rw [Thread.cmd?, hdone, ite_self] at hcmd
  exact absurd rfl hcmd

theorem Thread.stop_cmd? (t : Thread S J α) : t.stop.cmd? = none := rfl

/-- **A step keeps a world sound.** -/
theorem Sound.step {w w' : World S σ J α} {op : Op E J X} (h : Sound D w) (hop : Respects D w op)
    (hstep : Stepped sys w op w') : Sound D w' := by
  cases hstep with
  | idle => exact h
  | spawned job =>
    refine ⟨h.inv, fun t ht hcmd => ?_, fun i j t u hi hj ht hu hjob hexclusive => ?_⟩
    · rcases Run.mem_snoc.1 ht with ht | rfl
      · exact h.safe t ht hcmd
      · exact hop.1
    · -- one of the two is the new process only if both are
      rw [getElem?_append] at hi hj
      have hnew : ∀ {x : Thread S J α} {n : ℕ}, [(⟨job, sys.body job, true⟩ : Thread S J α)][n]? = some x →
          n = 0 ∧ x.job = job := by
        intro x n hx
        rw [getElem?_singleton] at hx
        split_ifs at hx with hn
        exact ⟨hn, by rw [← Option.some.inj hx]⟩
      split at hi <;> split at hj
      · exact h.single i j t u hi hj ht hu hjob hexclusive
      · obtain ⟨-, hu'⟩ := hnew hj
        rw [hjob, hu'] at hexclusive
        exact absurd (hjob.trans hu') (hop.2 hexclusive t (mem_of_getElem? hi) ht)
      · obtain ⟨-, ht'⟩ := hnew hi
        rw [ht'] at hexclusive
        exact absurd (hjob.symm.trans ht') (hop.2 hexclusive u (mem_of_getElem? hj) hu)
      · have hi' := (hnew hi).1
        have hj' := (hnew hj).1
        omega
  | stopped index t =>
    refine ⟨h.inv, fun u hu hcmd => ?_, fun i j u v hi hj hu hv hjob hexclusive => ?_⟩
    · rcases mem_or_eq_of_mem_set hu with hu | rfl
      · exact h.safe u hu hcmd
      · exact absurd (Thread.stop_cmd? t) hcmd
    · have hold : ∀ {n : ℕ} {x : Thread S J α}, (w.threads.set index t.stop)[n]? = some x → x.cmd? ≠ none →
          w.threads[n]? = some x := by
        intro n x hx hcmd
        rcases set_cases hx with ⟨-, rfl⟩ | ⟨-, hx⟩
        · exact absurd (Thread.stop_cmd? t) hcmd
        · exact hx
      exact h.single i j u v (hold hi hu) (hold hj hv) hu hv hjob hexclusive
  | changed =>
    exact ⟨hop.1, fun t ht hcmd => ensures_of_cmd hcmd (h.safe t ht hcmd) (hop.2 t ht hcmd), h.single⟩
  | advanced index e t c _ found live next =>
    have hmem := mem_of_getElem? found
    have hcmd : t.cmd? ≠ none := by simp [Thread.cmd?_ask live next]
    have henv := hop t found hcmd
    obtain ⟨hguard, hnext⟩ := h.asked hmem live next
    obtain ⟨hinv, hothers⟩ := D.keeps t.job e c w.store h.inv hguard henv
    refine ⟨hinv, fun u hu hcmd' => ?_, fun i j u v hi hj hu hv hjob hexclusive => ?_⟩
    · obtain ⟨n, hn⟩ := getElem?_of_mem hu
      rcases set_cases hn with ⟨-, rfl⟩ | ⟨hne, hold⟩
      · exact hnext e henv
      · refine ensures_of_cmd hcmd' (h.safe u (mem_of_getElem? hold) hcmd') (hothers u.job fun hjob hexclusive => ?_)
        exact hne (h.single index n t u found hold hcmd hcmd' hjob.symm hexclusive)
    · rcases set_cases hi with ⟨rfl, rfl⟩ | ⟨-, hold⟩
      · rcases set_cases hj with ⟨rfl, -⟩ | ⟨-, hold'⟩
        · rfl
        · exact h.single index j t v found hold' hcmd hv hjob hexclusive
      · rcases set_cases hj with ⟨rfl, rfl⟩ | ⟨-, hold'⟩
        · exact h.single i index u t hold found hu hcmd hjob hexclusive
        · exact h.single i j u v hold hold' hu hv hjob hexclusive

/-- a world before its first step -/
theorem Sound.initial (hinit : D.inv s) : Sound D ⟨s, []⟩ :=
  ⟨hinit, fun t ht => by (cases ht), fun i j t u hi => by simp at hi⟩

/-- **A run keeps a world sound**, if what comes from outside respects the processes that are under way. -/
theorem Sound.run (hinit : D.inv s) {ops : List (Op E J X)}
    (hops : Along (fun pre op => Sound D (run sys s pre) → Respects D (run sys s pre) op) ops) : Sound D (run sys s ops) :=
  hops.invariant (P := Sound D) (.initial hinit) fun _ op _ hop ih => ih.step (hop ih) (step_stepped sys _ op)

/-! ## A process that is left alone -/

/-- run a process to its end, with nobody else -/
def Proc.alone (act : (c : S.Cmd) → σ → S.Ans c × σ) : Proc S α → σ → α × σ
  | .done a, s => (a, s)
  | .ask c k, s => (k (act c s).1).alone act (act c s).2

/-- alone, a process comes to its end, and has reached its `post` -/
theorem Ensures.alone {C : Contract S σ E} {p : Proc S α} (h : Ensures C post p s) (hs : C.inv s)
    (hkeeps : ∀ e c s, C.inv s → C.guard c s → C.env e → C.inv (C.act e c s).2) {env : S.Cmd → E}
    (henv : ∀ c, C.env (env c)) :
    post (p.alone (fun c => C.act (env c) c) s).1 (p.alone (fun c => C.act (env c) c) s).2 := by
  induction p generalizing s with
  | done => exact h
  | ask c _ ih =>
    obtain ⟨hguard, hnext⟩ := h s (C.refl s) hs
    exact ih _ (hnext (env c) (henv c)) (hkeeps (env c) c s hs hguard (henv c))

end MasiEdge.Process
