import Cc3000Async.DriverRefinement

/-!
Calls that are interrupted. A reception may come between any two actions of a call. Even so
each call takes effect at one moment: what the driver does is what a station does to which
these moments and the receptions happen one after the other.
-/
namespace Cc3000Async.TakingEffect

open ByteMemory LabelledRuns Opcodes DriverState HciFrames SpiReceive SocketOperations Requests
open ArgumentBlocks BusTransactions DeviceCommands InterruptInterleaving OperationsArrive
open LinkRefinement DriverRefinement
open ServiceLoop (arrives service)

/-- The start runs with the interrupt off, and the calls that await no answer change their
variables where they are called. -/
def atOnce : Call → Bool
  | .request (.start _) => true
  | .request r => (asked r).isNone
  | _ => true

/-- What takes effect with a step, and the call that has yet to: any other request takes
effect when it sets its expectation. -/
def effect (decode : (ℕ → Byte) → Frame) (waiting : Option Act) (c : Config) :
    Label → List Act × Option Act
  | .call k => if atOnce k then ([actOf k], none) else ([], some (actOf k))
  | .act =>
      match c.rest with
      | .hciExpect _ :: _ => (waiting.toList, none)
      | _ => ([], waiting)
  | .interrupt reply => ([.receive (decode reply)], waiting)
  | .service reply => ([.service (decode reply)], waiting)

def effects (decode : (ℕ → Byte) → Frame) (s : State) (ls : List Label) : List Act :=
  (emitted step (effect decode) none (idle s) ls).1

def made : Label → List Act
  | .call k => [actOf k]
  | _ => []

def isCall : Act → Bool
  | .request _ => true
  | .send _ _ _ _ => true
  | .stop => true
  | _ => false

/-- The condition on a step: the device understands the calls, and what it transmits is the
frame that it is taken for. -/
def Meant (decode : (ℕ → Byte) → Frame) (c : Config) (l : Label) (t : Config) : Prop :=
  Understood c l t ∧ ∀ reply, l = .interrupt reply ∨ l = .service reply →
    (decode reply).Proper ∧ Holds reply 0 (encode (decode reply))

section Plain

def isPlain : Action → Bool
  | .resetState => false
  | .hciExpect _ => false
  | _ => true

def Plain (p : Prog) : Prop := p.all isPlain = true

theorem plain_append (p q : Prog) : Plain (p ++ q) ↔ Plain p ∧ Plain q := by
  rw [Plain, List.all_append, Bool.and_eq_true]
  exact Iff.rfl

theorem plain_cons (a : Action) (p : Prog) : Plain (a :: p) ↔ isPlain a = true ∧ Plain p := by
  rw [Plain, List.all_cons, Bool.and_eq_true]
  exact Iff.rfl

variable {p : Prog} {s t : State} {m : Station}

theorem agree_action {a : Action} (h : isPlain a = true) (s : State) : Agree (a.exec s) s := by
  cases a with
  | hciExpect op => exact absurd h Bool.false_ne_true
  | resetState => exact absurd h Bool.false_ne_true
  | sendPadding =>
    simp only [Action.exec]
    split <;> exact ⟨rfl, rfl, rfl, rfl, rfl, rfl, rfl⟩
  | setSocketActiveStatus sd status =>
    simp only [Action.exec, State.setSocketActiveStatus]
    split <;> exact ⟨rfl, rfl, rfl, rfl, rfl, rfl, rfl⟩
  | _ => exact ⟨rfl, rfl, rfl, rfl, rfl, rfl, rfl⟩

theorem agree_exec (h : Plain p) (s : State) : Agree (p.exec s) s := by
  induction p generalizing s with
  | nil => exact ⟨rfl, rfl, rfl, rfl, rfl, rfl, rfl⟩
  | cons a p ih =>
    obtain ⟨ha, hp⟩ := (plain_cons a p).mp h
    exact (ih hp (a.exec s)).trans (agree_action ha s)

/-- The socket status after a program depends on that before it alone. -/
theorem exec_socketActiveStatus_congr (p : Prog)
    (h : t.socketActiveStatus = s.socketActiveStatus) :
    (p.exec t).socketActiveStatus = (p.exec s).socketActiveStatus := by
  induction p generalizing s t with
  | nil => exact h
  | cons a p ih =>
    apply ih
    by_cases ha : ∃ sd status, a = .setSocketActiveStatus sd status
    · obtain ⟨sd, status, rfl⟩ := ha
      simp only [Action.exec, State.setSocketActiveStatus]
      split
      · rw [h]
      · exact h
    · have hnot : ∀ sd status, a ≠ .setSocketActiveStatus sd status :=
        fun sd status heq => ha ⟨sd, status, heq⟩
      rw [Action.exec_socketActiveStatus hnot, Action.exec_socketActiveStatus hnot, h]

theorem aside_exec (hplain : Plain p) (h : aside t = aside s) :
    aside (p.exec t) = aside (p.exec s) := by
  have ht := agree_exec hplain t
  have hs := agree_exec hplain s
  simp only [aside, Prod.mk.injEq] at h ⊢
  obtain ⟨hdesired, hsize, hstatus, hsockets⟩ := h
  refine ⟨?_, ?_, ?_, exec_socketActiveStatus_congr p hsockets⟩
  · rw [Prog.exec_desiredState, Prog.exec_desiredState, hdesired]
  · rw [ht.bufferLength, hs.bufferLength, hsize]
  · rw [ht.state, hs.state, hstatus]

/-- Plain actions that are still to come may as well have come before what happens to the
link. -/
theorem tells_meanwhile (hplain : Plain p) (h : Tells (p.exec s) m) {g : Link → Link}
    (hlink : ∀ l, LinkRefinement.Shows s l → LinkRefinement.Shows t (g l))
    (haside : aside t = aside s) : Tells (p.exec t) { m with link := g m.link } := by
  have hbefore : LinkRefinement.Shows s m.link :=
    shows_of_agree (agree_exec hplain s).symm h.link
  have hafter : LinkRefinement.Shows (p.exec t) (g m.link) :=
    shows_of_agree (agree_exec hplain t) (hlink _ hbefore)
  exact h.received hafter (aside_exec hplain haside)

end Plain

section Calls

variable {k : Call} {r : Request} {p : Prog} {s s' : State} {m : Station}

theorem plain_callsProg (calls : List SendCall) : Plain (callsProg calls) := by
  rw [callsProg_eq, Plain, List.all_map, List.all_eq_true]
  exact fun _ _ => rfl

theorem plain_sendProg (sd : Byte) (buf : Mem) (len : BitVec 16) (flags : Byte) :
    Plain (sendProg sd buf len flags) := by
  rw [sendProg, plain_append, plain_append]
  exact ⟨⟨rfl, plain_callsProg _⟩, rfl⟩

theorem split_request (hp : r.prog = some p) (hreadable : Readable r)
    (hr : ∀ patchesRequest, r ≠ .start patchesRequest) (hasked : asked r ≠ none) :
    ∃ before op after, p = before ++ .hciExpect op :: after ∧ Plain (before ++ after) := by
  cases hc : r.command with
  | some c =>
    rw [prog_of_command r c hc, Option.some.injEq] at hp
    refine ⟨[.incDesiredState] ++ cc3000HciStartCommand c.opcode c.argsLength ++
      callsProg c.calls ++ cc3000HciEndCommand, c.expected, r.after, ?_, ?_⟩
    · rw [← hp, Command.prog, List.append_assoc _ [_]]
      rfl
    · rw [plain_append, plain_append, plain_append]
      refine ⟨⟨⟨rfl, plain_callsProg _⟩, rfl⟩, ?_⟩
      cases r <;> rfl
  | none =>
    obtain ⟨patchesRequest, rfl⟩ | rfl | ⟨mdnsEnabled, serviceName, rfl, hlong, -⟩ |
      ⟨profile, rfl, hknown⟩ := cases_of_command_none r p hp hc
    · exact absurd rfl (hr patchesRequest)
    · rw [← Option.some.inj hp]
      exact ⟨_, _, [], rfl, rfl⟩
    · exact absurd (if_pos hlong) hasked
    · exact absurd hreadable.1 hknown

theorem tells_perform (h : Tells s m) (o : Operation) : Tells s (m.perform o) :=
  ⟨h.link, h.requested, h.bufferLength, h.sizeKnown, h.sockets⟩

/-- What the action that sets the expectation leaves of a request: the counter is raised and
a socket that is closed is marked. -/
def asking (m : Station) (r : Request) : Station :=
  { m with requested := m.requested + 1, sockets := (m.mark r).sockets }

/-- The request is made and waits to take effect. -/
structure Awaits (r : Request) (op : BitVec 16) (o : Operation) : Prop where
  asked : asked r = some o
  awaited : Station.awaited r = some op
  nonzero : op ≠ 0
  notStart : ∀ patchesRequest, r ≠ .start patchesRequest
  readable : Readable r
  defined : ∃ p, r.prog = some p

theorem request_of_awaits {op : BitVec 16} {o : Operation} (h : Awaits r op o) (m : Station) :
    m.request r =
      { asking m r with link := { m.link with pending := some op } }.perform o := by
  rw [Station.request, h.asked, h.awaited]
  dsimp only
  rw [← mark_of_not_start h.notStart]
  rfl

/-- A request that is called is about to be asked for. -/
theorem begins_request (h : Tells s m) (hp : r.prog = some p) (hreadable : Readable r)
    (hr : ∀ patchesRequest, r ≠ .start patchesRequest) {o : Operation} (ho : asked r = some o) :
    ∃ before op after, p = before ++ .hciExpect op :: after ∧ Plain (before ++ after) ∧
      Awaits r op o ∧ Tells (Prog.exec (before ++ after) s) (asking m r) := by
  rcases request_cases hp hreadable with ⟨-, hnone⟩ | ⟨o', op, ho', hop, hnonzero, hraises⟩
  · rw [ho] at hnone
    exact absurd hnone (Option.some_ne_none o)
  · obtain rfl : o = o' := Option.some.inj (ho.symm.trans ho')
    obtain ⟨before, op', after, rfl, hplain⟩ :=
      split_request hp hreadable hr (ho ▸ Option.some_ne_none o)
    obtain rfl : op' = op := hraises.only op' (by simp)
    refine ⟨before, op', after, rfl, hplain, ⟨ho, hop, hnonzero, hr, hreadable, _, hp⟩, ?_⟩
    have hagree := agree_exec hplain s
    have hcount : (before ++ after).count .incDesiredState = 1 := by
      have hone := hraises.count
      simp only [List.count_append, List.count_cons] at hone ⊢
      simpa using hone
    have hsockets := sockets_request h.sockets hp
    have hsame : (Prog.exec (before ++ .hciExpect op' :: after) s).socketActiveStatus =
        (Prog.exec (before ++ after) s).socketActiveStatus := by
      rw [Prog.exec_append, Prog.exec_append, Prog.exec_cons]
      exact exec_socketActiveStatus_congr after rfl
    refine h.of_agree hagree ?_ ?_
    · rw [Prog.exec_desiredState, hcount, h.requested]
      exact (BitVec.ofNat_add m.requested 1).symm
    · rw [← hsame]
      exact hsockets

end Calls

/-- The interrupt is off, and will be on when nothing else is left to do. -/
def Shielded (p : Prog) (s : State) : Prop :=
  s.interruptsEnabled = false ∧
    ∃ q : Prog, p = q ++ [.interruptEnable] ∧ Action.interruptEnable ∉ q

/-- How far a configuration has come with a station: what is left of a call that has taken
effect changes nothing for the station; of one that has not, it changes what the request is
about to change, and sets the expectation. -/
inductive Progress : Option Act → Config → Station → Prop
  | settled {c : Config} {m : Station} (tells : Tells (c.rest.exec c.st) m)
      (rest : Plain c.rest ∨ Shielded c.rest c.st)
      (issued : c.issued.map readMessage = m.operations.map some) : Progress none c m
  | waiting {c : Config} {m : Station} {r : Request} {op : BitVec 16} {o : Operation}
      {before after : Prog} (split : c.rest = before ++ .hciExpect op :: after)
      (plain : Plain (before ++ after)) (awaits : Awaits r op o)
      (tells : Tells (Prog.exec (before ++ after) c.st) (asking m r))
      (issued : c.issued.map readMessage = (m.operations ++ [o]).map some) :
      Progress (some (.request r)) c m

section Steps

variable {decode : (ℕ → Byte) → Frame} {w : Option Act} {c t : Config} {m : Station}

/-- Between two calls nothing waits. -/
theorem Progress.at_rest (h : Progress w c m) (hrest : c.rest = []) :
    w = none ∧ Tells c.st m ∧ c.issued.map readMessage = m.operations.map some := by
  cases h with
  | settled tells _ issued =>
    rw [hrest] at tells
    exact ⟨rfl, tells, issued⟩
  | waiting split =>
    rw [hrest] at split
    simp at split

theorem allows_of_meant {k : Call} {s s' : State} {p : Prog} (hproper : k.Proper s)
    (hreadable : ReadableCall k) (hbegin : k.begin s = some (s', p)) (m : Station) :
    m.Allows (actOf k) := by
  cases k with
  | request r =>
    simp only [Call.begin, Option.map_eq_some_iff, Prod.mk.injEq] at hbegin
    obtain ⟨p', hp, -⟩ := hbegin
    exact ⟨hreadable, p', hp⟩
  | send sd buf len flags => exact hproper
  | stop => trivial

/-- What is left of a call that takes effect at once. -/
theorem rest_of_atOnce {k : Call} {s s' : State} {p : Prog} (hproper : k.Proper s)
    (hreadable : ReadableCall k) (hbegin : k.begin s = some (s', p))
    (honce : atOnce k = true) : Plain p ∨ Shielded p s' := by
  cases k with
  | request r =>
    simp only [Call.begin, Option.map_eq_some_iff, Prod.mk.injEq] at hbegin
    obtain ⟨p', hp, rfl, rfl⟩ := hbegin
    by_cases hr : ∃ patchesRequest, r = .start patchesRequest
    · obtain ⟨patchesRequest, rfl⟩ := hr
      refine Or.inr ⟨hproper, (cc3000Start patchesRequest).dropLast, ?_, ?_⟩
      · exact (Option.some.inj hp).symm
      · simp [cc3000Start]
    · have hnone : asked r = none := by
        cases r with
        | start patchesRequest => exact absurd ⟨patchesRequest, rfl⟩ hr
        | _ => exact Option.isNone_iff_eq_none.mp honce
      rcases request_cases hp hreadable with ⟨rfl, -⟩ | ⟨o, op, ho, -⟩
      · exact Or.inl rfl
      · rw [hnone] at ho
        exact absurd ho.symm (Option.some_ne_none o)
  | send sd buf len flags =>
    simp only [Call.begin] at hbegin
    by_cases hfree : s.freeBuffers = 0#8
    · rw [if_pos hfree, Option.some.injEq, Prod.mk.injEq] at hbegin
      obtain ⟨-, rfl⟩ := hbegin
      exact Or.inl rfl
    · rw [if_neg hfree, Option.some.injEq, Prod.mk.injEq] at hbegin
      obtain ⟨-, rfl⟩ := hbegin
      exact Or.inl (plain_sendProg sd buf len flags)
  | stop =>
    simp only [Call.begin, Option.some.injEq, Prod.mk.injEq] at hbegin
    obtain ⟨-, rfl⟩ := hbegin
    exact Or.inl rfl

theorem progress_call (h : Progress w c m) {k : Call} (hstep : Takes step c (.call k) t)
    (hproper : k.Proper c.st) (hreadable : ReadableCall k) :
    (∃ n, Run Station.Moves m (effect decode w c (.call k)).1 n ∧
      Progress (effect decode w c (.call k)).2 t n) ∧
    (effect decode w c (.call k)).1.filter isCall ++ (effect decode w c (.call k)).2.toList =
      w.toList ++ made (.call k) := by
  unfold Takes step at hstep
  cases hrest : c.rest with
  | cons a rest => simp [hrest] at hstep
  | nil =>
    simp only [hrest, Option.map_eq_some_iff] at hstep
    obtain ⟨⟨s, p⟩, hbegin, rfl⟩ := hstep
    obtain ⟨rfl, htells, hissued⟩ := h.at_rest hrest
    have hread := readMessage_messages hproper hreadable hbegin
    by_cases honce : atOnce k = true
    · have heffect : effect decode none c (.call k) = ([actOf k], none) := if_pos honce
      have hcall : isCall (actOf k) = true := by cases k <;> rfl
      rw [heffect]
      refine ⟨⟨m.step (actOf k), Run.cons ⟨?_, rfl⟩ (Run.nil _), ?_⟩, ?_⟩
      · exact allows_of_meant hproper hreadable hbegin m
      · refine Progress.settled (tells_call htells hreadable hbegin)
          (rest_of_atOnce hproper hreadable hbegin honce) ?_
        rw [operations_call htells hreadable hbegin, List.map_append, List.map_append, hissued,
          hread]
      · simp [made, hcall]
    · have heffect : effect decode none c (.call k) = ([], some (actOf k)) := if_neg honce
      rw [heffect]
      cases k with
      | send sd buf len flags => exact absurd rfl honce
      | stop => exact absurd rfl honce
      | request r =>
        have hr : ∀ patchesRequest, r ≠ .start patchesRequest := by
          rintro patchesRequest rfl
          exact honce rfl
        obtain ⟨o, ho⟩ : ∃ o, asked r = some o := by
          cases hasked : asked r with
          | some o => exact ⟨o, rfl⟩
          | none =>
            refine absurd ?_ honce
            cases r <;> simp_all [atOnce]
        simp only [Call.begin, Option.map_eq_some_iff, Prod.mk.injEq] at hbegin
        obtain ⟨p', hp, rfl, rfl⟩ := hbegin
        obtain ⟨before, op, after, hsplit, hplain, hawaits, hasking⟩ :=
          begins_request htells hp hreadable hr ho
        refine ⟨⟨m, Run.nil m, Progress.waiting hsplit hplain hawaits hasking ?_⟩, rfl⟩
        rw [List.map_append, List.map_append, hissued, hread, askedByCall, ho]
        rfl

theorem rest_of_act {a : Action} {p : Prog} {s : State} (h : Plain (a :: p) ∨ Shielded (a :: p) s) :
    Plain p ∨ Shielded p (a.exec s) := by
  rcases h with hplain | ⟨hdisabled, q, hq, hnot⟩
  · exact Or.inl ((plain_cons a p).mp hplain).2
  · cases q with
    | nil =>
      obtain ⟨-, rfl⟩ := List.cons.inj hq
      exact Or.inl rfl
    | cons b q =>
      obtain ⟨rfl, hrest⟩ := List.cons.inj hq
      obtain ⟨hne, hmem⟩ := not_or.mp (mt List.mem_cons.mpr hnot)
      refine Or.inr ⟨?_, q, hrest, hmem⟩
      obtain ⟨-, -, henabled⟩ := Action.exec_line a s
      rw [henabled, hdisabled]
      cases a <;> simp_all [enabledAfter]

theorem progress_act (h : Progress w c m) (hstep : Takes step c .act t) :
    (∃ n, Run Station.Moves m (effect decode w c .act).1 n ∧
      Progress (effect decode w c .act).2 t n) ∧
    (effect decode w c .act).1.filter isCall ++ (effect decode w c .act).2.toList =
      w.toList ++ made .act := by
  unfold Takes step at hstep
  cases hrest : c.rest with
  | nil => simp [hrest] at hstep
  | cons a rest =>
    simp only [hrest, Option.some.injEq] at hstep
    subst hstep
    cases h with
    | settled tells settles issued =>
      have heffect : effect decode none c .act = ([], none) := by
        simp only [effect]
        split <;> rfl
      rw [hrest] at tells settles
      rw [heffect]
      exact ⟨⟨m, Run.nil m, Progress.settled tells (rest_of_act settles) issued⟩, rfl⟩
    | @waiting _ _ r op o before after split plain awaits tells issued =>
      rw [hrest] at split
      cases before with
      | nil =>
        -- the expectation is set, and the request takes effect
        obtain ⟨rfl, rfl⟩ := List.cons.inj split
        have heffect : effect decode (some (.request r)) c .act = ([.request r], none) := by
          simp only [effect, hrest]
          rfl
        have hlink : ∀ l, LinkRefinement.Shows c.st l →
            LinkRefinement.Shows ((Action.hciExpect op).exec c.st) { l with pending := some op } :=
          fun l hl => ⟨rfl, fun hzero => awaits.nonzero (Option.some.inj hzero), hl.currentState,
            hl.connected, hl.address, hl.noAddress, hl.closing, hl.credits, hl.returned⟩
        have hafter := tells_meanwhile plain tells hlink rfl
        rw [heffect]
        refine ⟨⟨m.request r, Run.cons ⟨⟨awaits.readable, awaits.defined⟩, rfl⟩ (Run.nil _), ?_⟩,
          rfl⟩
        rw [request_of_awaits awaits]
        exact Progress.settled (tells_perform hafter o) (Or.inl plain) issued
      | cons b before =>
        obtain ⟨rfl, hsplit⟩ := List.cons.inj split
        obtain ⟨hfirst, hplain⟩ := (plain_cons a _).mp plain
        have heffect : effect decode (some (.request r)) c .act = ([], some (.request r)) := by
          simp only [effect, hrest]
          cases a with
          | hciExpect op => exact absurd hfirst Bool.false_ne_true
          | _ => rfl
        rw [heffect]
        exact ⟨⟨m, Run.nil m, Progress.waiting hsplit hplain awaits tells issued⟩, rfl⟩

/-- A reception does not matter to the rest of a call, nor the rest to the reception. -/
theorem Progress.reception (h : Progress w c m) (hrest : Plain c.rest ∨ w ≠ none) {s : State}
    {g : Link → Link}
    (hlink : ∀ l, LinkRefinement.Shows c.st l → LinkRefinement.Shows s (g l))
    (haside : aside s = aside c.st) (replies : List (ℕ → Byte)) :
    Progress w { c with st := s, replies := replies } { m with link := g m.link } := by
  cases h with
  | settled tells settles issued =>
    have hplain : Plain c.rest := hrest.resolve_right (fun hne => hne rfl)
    exact Progress.settled (tells_meanwhile hplain tells hlink haside) (Or.inl hplain) issued
  | @waiting _ _ r op o before after split plain awaits tells issued =>
    have hafter := tells_meanwhile plain tells hlink haside
    have hsame : { asking m r with link := g (asking m r).link } =
        asking { m with link := g m.link } r := by
      cases r <;> rfl
    rw [hsame] at hafter
    exact Progress.waiting split plain awaits hafter issued

/-- Every step is matched by the station, and each call takes effect once. -/
theorem progress_step (w : Option Act) (c : Config) (l : Label) (t : Config) (m : Station)
    (h : Progress w c m) (hstep : Takes step c l t) (hmeant : Meant decode c l t) :
    (∃ n, Run Station.Moves m (effect decode w c l).1 n ∧
      Progress (effect decode w c l).2 t n) ∧
    (effect decode w c l).1.filter isCall ++ (effect decode w c l).2.toList =
      w.toList ++ made l := by
  obtain ⟨⟨hproper, hreadable⟩, hframes⟩ := hmeant
  cases l with
  | call k => exact progress_call h hstep (hproper k rfl) (hreadable k rfl)
  | act => exact progress_act h hstep
  | interrupt reply =>
    obtain ⟨hframe, hreply⟩ := hframes reply (Or.inl rfl)
    unfold Takes step at hstep
    simp only [Option.ite_none_right_eq_some, Option.some.injEq] at hstep
    obtain ⟨henabled, rfl⟩ := hstep
    have hrest : Plain c.rest ∨ w ≠ none := by
      cases h with
      | settled _ settles =>
        refine settles.imp_right fun hshielded => ?_
        rw [hshielded.1] at henabled
        exact absurd henabled Bool.false_ne_true
      | waiting => exact Or.inr (Option.some_ne_none _)
    obtain ⟨hlink, haside⟩ := received_once hframe hreply c.st
    refine ⟨⟨_, Run.cons ⟨hframe, rfl⟩ (Run.nil _), h.reception hrest hlink haside _⟩, ?_⟩
    exact (List.append_nil _).symm
  | service reply =>
    obtain ⟨hframe, hreply⟩ := hframes reply (Or.inr rfl)
    unfold Takes step at hstep
    cases hrest : c.rest with
    | cons a rest => simp [hrest] at hstep
    | nil =>
      simp only [hrest, Option.some.injEq] at hstep
      subst hstep
      obtain ⟨hlink, haside⟩ := received_twice hframe hreply c.st
      have hplain : Plain c.rest ∨ w ≠ none := by
        rw [hrest]
        exact Or.inl rfl
      have hafter := h.reception hplain hlink haside (c.replies ++ [reply])
      rw [hrest] at hafter
      refine ⟨⟨_, Run.cons ⟨hframe, rfl⟩ (Run.nil _), hafter⟩, ?_⟩
      exact (List.append_nil _).symm

/-- Wherever a frame may come, the variables that frames write show the link. -/
theorem Progress.link (h : Progress w c m) (henabled : c.st.interruptsEnabled = true) :
    LinkRefinement.Shows c.st m.link := by
  cases h with
  | settled tells settles =>
    rcases settles with hplain | ⟨hdisabled, -⟩
    · exact shows_of_agree (agree_exec hplain c.st).symm tells.link
    · rw [hdisabled] at henabled
      exact absurd henabled Bool.false_ne_true
  | waiting split plain awaits tells =>
    exact shows_of_agree (agree_exec plain c.st).symm tells.link

end Steps

/-- A run keeps progress with a station that follows its first state. -/
theorem progress_of_run {decode : (ℕ → Byte) → Frame} {s : State} {m : Station}
    (h : Follows s m) (hbus : s.bus = []) {ls : List Label}
    (hmeant : Along (Takes step) (Meant decode) (idle s) ls) {c : Config}
    (hrun : Run (Takes step) (idle s) ls c) :
    ∃ w n, Run Station.Moves m (effects decode s ls) n ∧ Progress w c n ∧
      (effects decode s ls).filter isCall ++ w.toList = ls.flatMap made := by
  have hnone : m.operations = [] := by
    obtain ⟨ms, hcarries, hread⟩ := h.performed
    rw [hbus] at hcarries
    have hlog : some [] = some ms := hcarries.deviceLog
    rw [← Option.some.inj hlog] at hread
    exact List.map_eq_nil_iff.mp hread.symm
  have hstart : Progress none (idle s) m := by
    refine Progress.settled h.toTells (Or.inl rfl) ?_
    rw [hnone]
    rfl
  obtain ⟨⟨n, hmoves, hprogress⟩, hcalls⟩ := hrun.emits progress_step hmeant hstart
  exact ⟨_, n, hmoves, hprogress, hcalls⟩

theorem takes_interrupt {c : Config} (henabled : c.st.interruptsEnabled = true)
    (reply : ℕ → Byte) : Takes step c (.interrupt reply)
      { c with
        st := (cc3000SpiReceive (arrives reply c.st)).val.2
        replies := c.replies ++ [reply] } := by
  unfold Takes step
  exact if_pos henabled

def listening : State := { initial (fun _ => 0) with interruptsEnabled := true }

theorem follows_listening : Follows listening openingStation := by
  have hagree : Agree listening (initial fun _ => 0) := ⟨rfl, rfl, rfl, rfl, rfl, rfl, rfl⟩
  have hlink := shows_of_agree hagree (shows_initial _)
  exact ⟨⟨hlink, rfl, rfl, rfl, SocketStatus.shows_init⟩, [], carries_nil, rfl⟩

/-- A frame comes after the first action of the request of a socket. -/
def interrupted (f : Frame) : List Label :=
  [.call (.request (.reqSocket 2 1 6)), .act,
    .interrupt (withPrefix (encode f) fun _ => 0)] ++
    List.replicate (cc3000ReqSocket 2 1 6).prog.tail.length .act

theorem run_interrupted (f : Frame) :
    ∃ c, Run (Takes step) (idle listening) (interrupted f) c ∧ c.rest = [] := by
  let reply := withPrefix (encode f) fun _ => 0
  let rest := (cc3000ReqSocket 2 1 6).prog.tail
  let issued : List FrameRoundTrip.Message :=
    [.command hciCmndSocket (streamed (cc3000ReqSocket 2 1 6).calls)]
  let raised : State := { listening with desiredState := 1 }
  have hcall : Takes step (idle listening) (.call (.request (.reqSocket 2 1 6)))
      ⟨.incDesiredState :: rest, listening, issued, []⟩ := rfl
  have hact : Takes step ⟨.incDesiredState :: rest, listening, issued, []⟩ .act
      ⟨rest ++ [], raised, issued, []⟩ := rfl
  have hinterrupt := takes_interrupt (c := ⟨rest ++ [], raised, issued, []⟩) rfl reply
  have hrest := run_acts rest [] (cc3000SpiReceive (arrives reply raised)).val.2 issued [reply]
  exact ⟨_, Run.cons hcall (Run.cons hact (Run.cons hinterrupt hrest)), rfl⟩

theorem meant_interrupted {f : Frame} (hproper : f.Proper) :
    Along (Takes step) (Meant fun _ => f) (idle listening) (interrupted f) := by
  apply along_of_labels (P := fun l => (∀ k, l = .call k → k = .request (.reqSocket 2 1 6)) ∧
    ∀ r, l = .interrupt r ∨ l = .service r → r = withPrefix (encode f) fun _ => 0)
  · intro c l t hl
    refine ⟨⟨fun k hk => ?_, fun k hk => ?_⟩, fun r hr => ?_⟩
    · rw [hl.1 k hk]
      refine ⟨trivial, fun c hc => ?_⟩
      rw [← Option.some.inj hc]
      rfl
    · rw [hl.1 k hk]
      trivial
    · rw [hl.2 r hr]
      exact ⟨hproper, holds_withPrefix _ _⟩
  · intro l hl
    simp only [interrupted, List.mem_append, List.mem_cons, List.not_mem_nil, or_false,
      List.mem_replicate] at hl
    rcases hl with (rfl | rfl | rfl) | ⟨-, rfl⟩ <;> simp

end Cc3000Async.TakingEffect
