/-
Idempotency of the mutation routes (`api/idempotency.go`).

One middleware stands before every mutation route. It reads the body, takes the key from it, and records the key under
the actor with a digest of the body; the handler runs only for a new record, and its response is stored in the record.

Actors and faults: any number of requests run at once; a statement may fail, or land and still be reported as failed
(`Commit.unknown`); a handler may die; the hourly sweep deletes completed records older than the retention.

* `mutations_idempotent`: as long as no key comes back with the same body for another operation, and no key comes back
  after its record was swept, the handler runs once per actor and key, a replay is the stored response of that very
  operation, and a reuse of the key is refused;
* `drain_answers_disable`: the digest does not cover the route, so the response of one operation answers another;
  after a sweep the handler runs again.

`encoding/json` is a parameter, and so is SHA-256.
-/
import MasiEdge.Base.Run
import MasiEdge.Base.Table
import MasiEdge.Digest

namespace MasiEdge.Api

open Codec Run Table List

/-- what the middleware needs of `encoding/json` -/
structure Json (Body : Type) where
  decode : Bytes → Option Body
  idempotencyKey : Body → Option String
  marshal : Body → Bytes

structure Actor where
  issuer : String
  subject : String
deriving DecidableEq

/-- method and pattern of the route, and what the path holds for its parameters -/
structure Operation where
  route : String
  params : List (String × String)
deriving DecidableEq

structure Request where
  actor : Actor
  operation : Operation
  raw : Bytes
deriving DecidableEq

structure Response where
  status : ℤ
  body : Bytes
deriving DecidableEq

/-- the primary key of `api_mutation_idempotency` -/
structure Slot where
  actor : Actor
  key : String
deriving DecidableEq

/-- a record; `stored` is the response and `completed_at`, or nothing while in progress -/
structure Row where
  slot : Slot
  requestDigest : String
  stored : Option (Response × ℤ)
deriving DecidableEq

/-- a request whose handler was started -/
structure Call where
  request : Request
  slot : Slot
  digest : String
deriving DecidableEq

/-- the records, the running handlers, and what ever ran and returned -/
structure World where
  rows : List Row
  running : List Call
  ran : List Call
  finished : List (Call × Response)
deriving DecidableEq

inductive Commit | done | failed | unknown
deriving DecidableEq

inductive Answer
  | executing
  | fresh (response : Response)
  | replayed (response : Response)
  | refused (status : ℕ) (code : String)
deriving DecidableEq

inductive Disposition
  | execute | replay (response : Response) | conflict | inProgress

def maxMutationResponseBytes : ℕ := 2 * 1024 * 1024

variable {Body : Type} (json : Json Body) (hash : Bytes → String) {id : Slot × String}

def canonicalMutationIdentity (raw : Bytes) : Option (String × String) := do
  let body ← json.decode raw
  let key ← json.idempotencyKey body
  guard (key ≠ "" ∧ (asBytes key).length ≤ 128)
  pure (key, sha256 hash (json.marshal body))

def beginMutation (rows : List Row) (slot : Slot) (requestDigest : String) : Disposition × List Row :=
  match lookup Row.slot rows slot with
  | none => (.execute, rows ++ [⟨slot, requestDigest, none⟩])
  | some row =>
    if row.requestDigest ≠ requestDigest then (.conflict, rows)
    else match row.stored with
      | some (response, _) => (.replay response, rows)
      | none => (.inProgress, rows)

/-- the middleware up to the handler -/
def requireMutationIdempotency (w : World) (q : Request) (commit : Commit) : Answer × World :=
  if 2 * 1024 * 1024 < q.raw.length then (.refused 413 "MUTATION_BODY_TOO_LARGE", w)
  else match canonicalMutationIdentity json hash q.raw with
    | none => (.refused 400 "IDEMPOTENCY_KEY_REQUIRED", w)
    | some (key, digest) =>
      let begun := beginMutation w.rows ⟨q.actor, key⟩ digest
      let w' := { w with rows := begun.2 }
      match commit with
      | .failed => (.refused 503 "IDEMPOTENCY_BEGIN_FAILED", w)
      | .unknown => (.refused 503 "IDEMPOTENCY_BEGIN_FAILED", w')
      | .done =>
        match begun.1 with
        | .replay response => (.replayed response, w')
        | .conflict => (.refused 409 "IDEMPOTENCY_KEY_CONFLICT", w')
        | .inProgress => (.refused 409 "IDEMPOTENCY_RECONCILE_REQUIRED", w')
        | .execute =>
          let call : Call := ⟨q, ⟨q.actor, key⟩, digest⟩
          (.executing, { w' with running := w.running ++ [call], ran := w.ran ++ [call] })

/-- the record a handler completes -/
def Call.completes (call : Call) (row : Row) : Bool :=
  row.slot = call.slot ∧ row.requestDigest = call.digest ∧ row.stored = none

/-- the records after the update of one row; an empty body is stored as NULL, which the table refuses -/
def completeMutation (rows : List Row) (call : Call) (response : Response) (now : ℤ) : Option (List Row) :=
  if response.status < 100 ∨ 599 < response.status ∨ maxMutationResponseBytes < response.body.length ∨
      response.body = [] ∨ rows.countP call.completes ≠ 1 then none
  else some (rows.map fun row => if call.completes row then { row with stored := some (response, now) } else row)

/-- the middleware after the handler -/
def finish (w : World) (call : Call) (response : Response) (now : ℤ) (commit : Commit) : Answer × World :=
  let w' := { w with finished := w.finished ++ [(call, response)] }
  match completeMutation w.rows call response now, commit with
  | some rows, .done => (.fresh response, { w' with rows })
  | some rows, .unknown => (.refused 503 "IDEMPOTENCY_FINALIZE_UNKNOWN", { w' with rows })
  | _, _ => (.refused 503 "IDEMPOTENCY_FINALIZE_UNKNOWN", w')

def Row.expired (cutoff : ℤ) (row : Row) : Bool := row.stored.any fun stored => stored.2 < cutoff

def hour : ℤ := 60 * 60 * 1000

def sweepMutationIdempotency (rows : List Row) (now retention : ℤ) (limit : ℕ) : List Row :=
  if retention < 24 * hour ∨ 30 * 24 * hour < retention ∨ limit < 1 ∨ 1000 < limit then rows
  else
    let old := rows.filter (Row.expired (now - retention))
    let doomed := (old.mergeSort fun a b => decide ((a.stored.map (·.2)).getD 0 ≤ (b.stored.map (·.2)).getD 0)).take limit
    rows.filter (· ∉ doomed)

inductive Op
  | serve (q : Request) (commit : Commit)
  | finish (i : ℕ) (response : Response) (now : ℤ) (commit : Commit)
  | lost (i : ℕ)
  | sweep (now retention : ℤ) (limit : ℕ)

def step (w : World) : Op → World
  | .serve q commit => (requireMutationIdempotency json hash w q commit).2
  | .finish i response now commit =>
    match w.running[i]? with
    | some call => (finish { w with running := w.running.eraseIdx i } call response now commit).2
    | none => w
  | .lost i => { w with running := w.running.eraseIdx i }
  | .sweep now retention limit => { w with rows := sweepMutationIdempotency w.rows now retention limit }

def run (ops : List Op) : World := ops.foldl (step json hash) ⟨[], [], [], []⟩

/-! ## What a request may be answered -/

/-- actor and key of a request, and the digest of its body -/
def identify (q : Request) : Option (Slot × String) :=
  (canonicalMutationIdentity json hash q.raw).map fun id => (⟨q.actor, id.1⟩, id.2)

def slotOf (q : Request) : Option Slot := (identify json hash q).map Prod.fst

/-- the law for one request, against everything that ran before it -/
structure Idempotent (w : World) (q : Request) (answer : Answer) : Prop where
  once : answer = .executing → ∀ call ∈ w.ran, slotOf json hash q ≠ some call.slot
  replayed : ∀ response, answer = .replayed response → ∃ call, (call, response) ∈ w.finished ∧
    call.request.actor = q.actor ∧ call.request.operation = q.operation ∧ json.decode call.request.raw = json.decode q.raw
  reused : ∀ call ∈ w.ran, slotOf json hash q = some call.slot →
    call.request.operation ≠ q.operation ∨ json.decode call.request.raw ≠ json.decode q.raw →
    ∃ status code, answer = .refused status code

/-- a key that was used before still has its record, and comes back with the same body only for the same operation -/
def Undisturbed (w : World) : Op → Prop
  | .serve q _ => ∀ call ∈ w.ran, slotOf json hash q = some call.slot →
      (∃ row ∈ w.rows, row.slot = call.slot) ∧
        (json.decode call.request.raw = json.decode q.raw → call.request.operation = q.operation)
  | _ => True

instance [DecidableEq Body] (w : World) : DecidablePred (Undisturbed json hash w)
  | .serve q _ => inferInstanceAs (Decidable (∀ call ∈ w.ran, slotOf json hash q = some call.slot →
      (∃ row ∈ w.rows, row.slot = call.slot) ∧
        (json.decode call.request.raw = json.decode q.raw → call.request.operation = q.operation)))
  | .finish .. | .lost _ | .sweep .. => inferInstanceAs (Decidable True)

structure Inv (w : World) : Prop where
  stored : ∀ row ∈ w.rows, ∀ s, row.stored = some s →
    ∃ call, (call, s.1) ∈ w.finished ∧ call.slot = row.slot ∧ call.digest = row.requestDigest
  finished : ∀ f ∈ w.finished, f.1 ∈ w.ran
  running : ∀ call ∈ w.running, call ∈ w.ran
  identified : ∀ call ∈ w.ran, identify json hash call.request = some (call.slot, call.digest)
  once : (w.ran.map Call.slot).Nodup

theorem beginMutation_cases (rows : List Row) (slot : Slot) (digest : String) :
    ((∀ row ∈ rows, row.slot ≠ slot) ∧ beginMutation rows slot digest = (.execute, rows ++ [⟨slot, digest, none⟩])) ∨
    (∃ row ∈ rows, ∃ s, row.slot = slot ∧ row.requestDigest = digest ∧ row.stored = some s ∧
      beginMutation rows slot digest = (.replay s.1, rows)) ∨
    beginMutation rows slot digest = (.conflict, rows) ∨ beginMutation rows slot digest = (.inProgress, rows) := by
  unfold beginMutation
  cases hrow : lookup Row.slot rows slot with
  | none => exact .inl ⟨lookup_eq_none.1 hrow, rfl⟩
  | some row =>
    by_cases hdigest : row.requestDigest = digest
    · cases hstored : row.stored with
      | none => simp [hdigest, hstored]
      | some s => exact .inr (.inl ⟨row, mem_of_lookup hrow, s, lookup_key hrow, hdigest, hstored, by simp [hdigest, hstored]⟩)
    · simp [hdigest]

/-- everything the middleware can do before the handler -/
theorem serve_cases (w : World) (q : Request) (commit : Commit) :
    (∃ status code rows, requireMutationIdempotency json hash w q commit = (.refused status code, { w with rows }) ∧
      ∀ row ∈ rows, row ∈ w.rows ∨ row.stored = none) ∨
    (∃ id, ∃ row ∈ w.rows, ∃ s, identify json hash q = some id ∧ row.slot = id.1 ∧ row.requestDigest = id.2 ∧
      row.stored = some s ∧ requireMutationIdempotency json hash w q commit = (.replayed s.1, w)) ∨
    ∃ id, identify json hash q = some id ∧ (∀ row ∈ w.rows, row.slot ≠ id.1) ∧
      requireMutationIdempotency json hash w q commit = (.executing, { w with
        rows := w.rows ++ [⟨id.1, id.2, none⟩], running := w.running ++ [⟨q, id.1, id.2⟩], ran := w.ran ++ [⟨q, id.1, id.2⟩] }) := by
  have hsame : ∀ row ∈ w.rows, row ∈ w.rows ∨ row.stored = none := fun row hrow => .inl hrow
  unfold requireMutationIdempotency identify
  by_cases hlarge : 2 * 1024 * 1024 < q.raw.length
  · exact .inl ⟨_, _, _, if_pos hlarge, hsame⟩
  rw [if_neg hlarge]
  cases canonicalMutationIdentity json hash q.raw with
  | none => exact .inl ⟨_, _, _, rfl, hsame⟩
  | some id =>
    obtain ⟨key, digest⟩ := id
    obtain ⟨hnew, hbegin⟩ | ⟨row, hrow, s, hslot, hdigest, hstored, hbegin⟩ | hbegin | hbegin :=
      beginMutation_cases w.rows ⟨q.actor, key⟩ digest <;> simp only [hbegin]
    · cases commit with
      | done => exact .inr (.inr ⟨_, rfl, hnew, rfl⟩)
      | failed => exact .inl ⟨_, _, _, rfl, hsame⟩
      | unknown =>
        exact .inl ⟨_, _, _, rfl, Run.forall_mem_snoc.2 ⟨fun row hrow => .inl hrow, .inr rfl⟩⟩
    · cases commit with
      | done => exact .inr (.inl ⟨_, row, hrow, s, rfl, hslot, hdigest, hstored, rfl⟩)
      | failed | unknown => exact .inl ⟨_, _, _, rfl, hsame⟩
    all_goals cases commit <;> exact .inl ⟨_, _, _, rfl, hsame⟩

/-- a completed record was completed before, or holds what this handler returned -/
theorem completeMutation_mem {rows rows' : List Row} {call : Call} {response : Response} {now : ℤ}
    (h : completeMutation rows call response now = some rows') {row : Row} (hrow : row ∈ rows') :
    row ∈ rows ∨ (row.stored = some (response, now) ∧ call.slot = row.slot ∧ call.digest = row.requestDigest) := by
  unfold completeMutation at h
  split at h
  · cases h
  · cases h
    obtain ⟨before, hbefore, rfl⟩ := List.mem_map.1 hrow
    split
    · rename_i hhit
      obtain ⟨hslot, hdigest, -⟩ := of_decide_eq_true hhit
      exact .inr ⟨rfl, hslot.symm, hdigest.symm⟩
    · exact .inl hbefore

variable {json hash} {w : World} {q : Request}

theorem identify_actor (h : identify json hash q = some id) : id.1.actor = q.actor := by
  obtain ⟨_, -, rfl⟩ := Option.map_eq_some_iff.1 h
  rfl

theorem slotOf_eq (h : identify json hash q = some id) {slot : Slot} :
    slotOf json hash q = some slot ↔ id.1 = slot := by
  simp [slotOf, h]

section

variable (hdigest : Function.Injective fun body => hash (json.marshal body))
include hdigest

/-- equal digests come from equal bodies -/
theorem decode_eq_of_digest {q' : Request} {id' : Slot × String} (h : identify json hash q = some id)
    (h' : identify json hash q' = some id') (heq : id.2 = id'.2) : json.decode q.raw = json.decode q'.raw := by
  simp only [identify, canonicalMutationIdentity, Option.map_eq_some_iff, Option.bind_eq_bind, Option.bind_eq_some_iff,
    pure, Option.some.injEq] at h h'
  obtain ⟨_, ⟨body, hbody, _, -, _, -, rfl⟩, rfl⟩ := h
  obtain ⟨_, ⟨body', hbody', _, -, _, -, rfl⟩, rfl⟩ := h'
  rw [hbody, hbody', hdigest (sha256_inj heq)]

theorem Inv.idempotent (hw : Inv json hash w) (commit : Commit) (hop : Undisturbed json hash w (.serve q commit)) :
    Idempotent json hash w q (requireMutationIdempotency json hash w q commit).1 := by
  obtain ⟨status, code, rows, hserve, -⟩ | ⟨id, row, hrow, s, hid, hslot, heq, hstored, hserve⟩ | ⟨id, hid, hnew, hserve⟩ :=
    serve_cases json hash w q commit
  · rw [hserve]
    exact ⟨nofun, nofun, fun _ _ _ _ => ⟨_, _, rfl⟩⟩
  · rw [hserve]
    -- the record was completed by a call of the same body, so of the same operation
    obtain ⟨call, hcall, hcslot, hcdigest⟩ := hw.stored row hrow s hstored
    have hran := hw.finished _ hcall
    have hcid := hw.identified call hran
    have hbody := decode_eq_of_digest hdigest hcid hid (hcdigest.trans heq)
    have hsame : id.1 = call.slot := (hcslot.trans hslot).symm
    have hoperation := (hop call hran ((slotOf_eq hid).2 hsame)).2 hbody
    refine ⟨nofun, ?_, ?_⟩
    · rintro _ ⟨⟩
      refine ⟨call, hcall, ?_, hoperation, hbody⟩
      rw [← identify_actor hcid, ← identify_actor hid, hsame]
    · intro call' hran' hslot' hdiffers
      have hcall' : call' = call := inj_on_of_nodup_map hw.once hran' hran (((slotOf_eq hid).1 hslot').symm.trans hsame)
      subst hcall'
      rcases hdiffers with hdiffers | hdiffers
      · exact absurd hoperation hdiffers
      · exact absurd hbody hdiffers
  · rw [hserve]
    have hfresh : ∀ call ∈ w.ran, slotOf json hash q ≠ some call.slot := by
      intro call hran hslot
      obtain ⟨⟨row, hrow, hrslot⟩, -⟩ := hop call hran hslot
      exact hnew row hrow (hrslot.trans ((slotOf_eq hid).1 hslot).symm)
    exact ⟨fun _ => hfresh, nofun, fun call hran hslot => absurd hslot (hfresh call hran)⟩

theorem Inv.step (hw : Inv json hash w) {op : Op} (hop : Undisturbed json hash w op) : Inv json hash (step json hash w op) := by
  cases op with
  | serve q commit =>
    obtain ⟨status, code, rows, hserve, hrows⟩ | ⟨id, row, -, s, -, -, -, -, hserve⟩ | ⟨id, hid, -, hserve⟩ :=
      serve_cases json hash w q commit <;> simp only [Api.step, hserve]
    · refine { hw with stored := fun row hrow s hs => ?_ }
      rcases hrows row hrow with hrow | hopen
      · exact hw.stored row hrow s hs
      · exact absurd (hopen.symm.trans hs) nofun
    · exact hw
    · have hfresh := (hw.idempotent hdigest commit hop).once (by rw [hserve])
      constructor
      · exact Run.forall_mem_snoc.2 ⟨hw.stored, nofun⟩
      · exact fun f hf => mem_append_left _ (hw.finished f hf)
      · intro call hcall
        exact List.mem_append.2 ((List.mem_append.1 hcall).imp_left (hw.running call))
      · exact Run.forall_mem_snoc.2 ⟨hw.identified, hid⟩
      · rw [map_append, nodup_append]
        refine ⟨hw.once, by simp, ?_⟩
        intro slot hslot _ hnew
        obtain ⟨call, hcall, rfl⟩ := List.mem_map.1 hslot
        rw [List.mem_singleton.1 hnew]
        exact fun heq => hfresh call hcall ((slotOf_eq hid).2 heq.symm)
  | finish i response now =>
    simp only [Api.step]
    cases hcall : w.running[i]? with
    | none => exact hw
    | some call =>
      have hran := hw.running call (mem_of_getElem? hcall)
      -- what the handler returned is on record before the update
      have hkept : Inv json hash { w with running := w.running.eraseIdx i, finished := w.finished ++ [(call, response)] } := by
        refine { hw with stored := fun row hrow s hs => ?_, finished := Run.forall_mem_snoc.2 ⟨hw.finished, hran⟩, running := fun call hcall => ?_ }
        · obtain ⟨call', hcall', hrest⟩ := hw.stored row hrow s hs
          exact ⟨call', mem_append_left _ hcall', hrest⟩
        · exact hw.running call (mem_of_mem_eraseIdx hcall)
      have hlanded : ∀ rows, completeMutation w.rows call response now = some rows →
          Inv json hash { w with rows, running := w.running.eraseIdx i, finished := w.finished ++ [(call, response)] } := by
        intro rows hrows
        refine { hkept with stored := fun row hrow s hs => ?_ }
        rcases completeMutation_mem hrows hrow with hrow | ⟨hstored, hslot, hdigest⟩
        · exact hkept.stored row hrow s hs
        · cases hs.symm.trans hstored
          exact ⟨call, by simp, hslot, hdigest⟩
      simp only [finish]
      split
      · exact hlanded _ (by assumption)
      · exact hlanded _ (by assumption)
      · exact hkept
  | lost => exact { hw with running := fun call hcall => hw.running call (mem_of_mem_eraseIdx hcall) }
  | sweep =>
    refine { hw with stored := fun row hrow s hs => hw.stored row ?_ s hs }
    simp only [Api.step, sweepMutationIdempotency] at hrow
    split at hrow
    · exact hrow
    · exact mem_of_mem_filter hrow

/-- **Mutations are idempotent** in every run that is not disturbed: no handler runs twice for an actor and a key, and every
request is answered lawfully. -/
theorem mutations_idempotent {ops : List Op} (h : Along (fun pre op => Undisturbed json hash (run json hash pre) op) ops) :
    ((run json hash ops).ran.map Call.slot).Nodup ∧
      Along (fun pre op => ∀ q commit, op = .serve q commit → Idempotent json hash (run json hash pre) q
        (requireMutationIdempotency json hash (run json hash pre) q commit).1) ops := by
  have hinv : Inv json hash (run json hash ops) ∧ Along (fun pre _ => Inv json hash (run json hash pre)) ops := by
    induction ops using List.reverseRecOn with
    | nil => exact ⟨⟨nofun, nofun, nofun, nofun, nodup_nil⟩, along_nil _⟩
    | append_singleton _ _ ih =>
      obtain ⟨hops, hop⟩ := (along_snoc _ _).1 h
      obtain ⟨hinv, halong⟩ := ih hops
      refine ⟨?_, (along_snoc _ _).2 ⟨halong, hinv⟩⟩
      rw [run, foldl_append]
      exact hinv.step hdigest hop
  refine ⟨hinv.1.once, ?_⟩
  rintro pre _ post hsplit q commit rfl
  exact (hinv.2 pre _ post hsplit).idempotent hdigest commit (h pre _ post hsplit)

end

def keyedBody (force : Bool) : Bytes :=
  asBytes ("\x7b\"force\":" ++ (if force then "true" else "false") ++ ",\"idempotency_key\":\"key-1\"\x7d")

/-- two bodies with one key -/
def twoBodies : Json Bool where
  decode raw := [true, false].find? fun force => raw = keyedBody force
  idempotencyKey _ := some "key-1"
  marshal := keyedBody

def twoDigests (payload : Bytes) : String := if payload = keyedBody true then "1" else "0"

def lifecycle (verb : String) : Request :=
  ⟨⟨"issuer", "operator"⟩, ⟨"POST /api/targets/\x7btargetID\x7d/" ++ verb, [("targetID", "target-1")]⟩, keyedBody false⟩

def draining : Response := ⟨200, [1]⟩

def drainedTwice : List Op :=
  [.serve (lifecycle "drain") .done, .finish 0 draining 0 .done, .serve (lifecycle "drain") .done]

/-- a drain that is sent again runs once -/
theorem drain_once : ((run twoBodies twoDigests drainedTwice).ran.map Call.slot).Nodup := by
  refine (mutations_idempotent (by decide) ?_).1
  exact along_of_decide (P := Undisturbed twoBodies twoDigests) (step twoBodies twoDigests) ⟨[], [], [], []⟩ (by decide +kernel)

/-- **The record of one operation answers another.** Drain and disable of a target have the same body. With the same key,
disable is answered with the response of drain and never runs; and a drain whose record was swept runs again. -/
theorem drain_answers_disable :
    let drained := run twoBodies twoDigests [.serve (lifecycle "drain") .done, .finish 0 draining 0 .done]
    (requireMutationIdempotency twoBodies twoDigests drained (lifecycle "disable") .done).1 = .replayed draining ∧
      (lifecycle "disable").operation ≠ (lifecycle "drain").operation ∧
      let swept := step twoBodies twoDigests drained (.sweep (31 * 24 * hour) (30 * 24 * hour) 1000)
      (requireMutationIdempotency twoBodies twoDigests swept (lifecycle "drain") .done).1 = .executing ∧
        swept.ran.length = 1 := by
  decide +kernel

end MasiEdge.Api
