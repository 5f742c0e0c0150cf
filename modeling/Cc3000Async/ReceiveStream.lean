import Cc3000Async.ArgumentBlocks
import Cc3000Async.ReceiveExchange
import Cc3000Async.UnsolicitedEvents

/-!
A stream read by one receive exchange after another. The application requests the next
exchange when it has the data of the last, and unsolicited events may be handled at any
time. An exchange whose data frame comes too early is lost as a whole and is the last one
or leaves nothing behind; so what is collected is made of whole payloads, and of all of
them exactly when every data frame comes on time.
-/
namespace Cc3000Async.ReceiveStream

open ByteMemory ArgumentBlocks LabelledRuns Opcodes DriverState EventHandler
open SocketOperations Requests UnsolicitedEvents
open ReceiveExchange (Exchange Config Pc OnTime Early Idle Awaits AfterCount)

/-- The exchange under way, those still to come, and what the earlier ones brought. -/
structure Reader where
  exchange : Config
  todo : List Exchange
  received : List Byte

/-- What the application has: the earlier data, and that of a finished exchange. -/
def Reader.collected (r : Reader) : List Byte :=
  r.received ++
    if r.exchange.pc = .done then bytesFrom r.exchange.buf r.exchange.numBytes.toNat else []

inductive Label
  | exchange (l : ReceiveExchange.Label)
  | unsolicited (data : Mem)
  | next

def Label.own : Label → Bool
  | .unsolicited _ => false
  | _ => true

def step (r : Reader) : Label → Option Reader
  | .exchange l =>
      match ReceiveExchange.step r.exchange l with
      | some c => some { r with exchange := c }
      | none => none
  | .unsolicited data =>
      if Unsolicited data then
        some { r with exchange := { r.exchange with st := handle data r.exchange.st } }
      else none
  | .next =>
      match r.exchange.pc, r.todo with
      | .done, x :: xs => some ⟨x.start r.exchange.st r.exchange.buf, xs, r.collected⟩
      | _, _ => none

def start (x : Exchange) (xs : List Exchange) (s : State) (buf : Mem) : Reader :=
  ⟨x.start s buf, xs, []⟩

def payloads (xs : List Exchange) : List Byte := xs.flatMap Exchange.payload

/-- The step is not the data frame coming before the count is read. -/
def InTime (r : Reader) (l : Label) (t : Reader) : Prop :=
  ∀ e, l = .exchange e → AfterCount r.exchange e t.exchange

section Unsolicited

variable {op : BitVec 16} {s : State} {u : Mem}

theorem armed_recv : Armed hciEvntRecv := Or.inl ⟨.reqRecv 0 0 0, _, rfl, by decide⟩

theorem armed_data : Armed hciDataRecv := Or.inr rfl

theorem handle_unsolicited (hop : Armed op) (hs : Expecting op s) (hu : Unsolicited u) :
    (handle u s).currentState = s.currentState ∧ (handle u s).expect = s.expect ∧
      (handle u s).returnBuffer = s.returnBuffer := by
  have hview := request_fixes hop hu s hs
  simpa only [requestView, Prod.mk.injEq] using hview

theorem idle_unsolicited (h : Idle s) (hu : Unsolicited u) :
    Idle (handle u s) ∧ (handle u s).returnBuffer = s.returnBuffer := by
  obtain ⟨hcounters, hexpect⟩ := h
  obtain ⟨hcurrent, hkept, hbuffer⟩ := handle_unsolicited armed_recv (Or.inr hexpect) hu
  refine ⟨⟨?_, hkept.trans hexpect⟩, hbuffer⟩
  rw [handle_desiredState, hcurrent, hcounters]

theorem awaits_unsolicited (hop : Armed op) (h : Awaits op s) (hu : Unsolicited u) :
    Awaits op (handle u s) := by
  obtain ⟨hcounters, hexpect⟩ := h
  obtain ⟨hcurrent, hkept, -⟩ := handle_unsolicited hop (Or.inl hexpect) hu
  refine ⟨?_, hkept.trans hexpect⟩
  rw [handle_desiredState, hcurrent, hcounters]

end Unsolicited

/-- An exchange on time, whose driver is idle once the application has the data. -/
structure Timely (x : Exchange) (c : Config) : Prop where
  phase : OnTime x c
  idle : c.pc = .done → Idle c.st

section Exchanges

variable {x : Exchange} {c d : Config}

theorem Timely.unsolicited {u : Mem} (h : Timely x c) (hu : Unsolicited u) :
    Timely x { c with st := handle u c.st } := by
  refine ⟨?_, fun hdone => (idle_unsolicited (h.idle hdone) hu).1⟩
  cases h.phase with
  | requested n buf s hawaits =>
    exact .requested _ _ _ (awaits_unsolicited armed_recv hawaits hu)
  | answered pc n buf s hpc hidle hcount =>
    obtain ⟨hidle', hbuffer⟩ := idle_unsolicited hidle hu
    exact .answered _ _ _ _ hpc hidle' ((congrFun hbuffer 4).trans hcount)
  | counted n buf s hawaits hn =>
    exact .counted _ _ _ (awaits_unsolicited armed_data hawaits hu) hn
  | received pc n buf s hpc hidle hn hsize hdata =>
    obtain ⟨hidle', hbuffer⟩ := idle_unsolicited hidle hu
    refine .received _ _ _ _ hpc hidle' hn ((congrFun hbuffer 0).trans hsize) ?_
    rw [hbuffer]
    exact hdata
  | finished n buf s hn hbuf => exact .finished _ _ _ hn hbuf

theorem early_unsolicited {u : Mem} (h : Early x c) (hu : Unsolicited u) :
    Early x { c with st := handle u c.st } := by
  cases h with
  | overwritten pc n buf s hpc hidle =>
    exact .overwritten _ _ _ _ hpc (idle_unsolicited hidle hu).1
  | stuck n buf s hawaits => exact .stuck _ _ _ (awaits_unsolicited armed_data hawaits hu)
  | nothing pc buf s hpc hidle =>
    exact .nothing _ _ _ hpc (idle_unsolicited hidle hu).1

theorem pending_of_done (h : OnTime x c) (hdone : c.pc = .done) : c.pending = [] := by
  cases h with
  | requested n buf s hawaits => exact absurd hdone (by simp)
  | answered pc n buf s hpc hidle hcount =>
    rcases hpc with rfl | rfl
    · exact absurd hdone (by simp)
    · exact absurd hdone (by simp)
  | counted n buf s hawaits hn => exact absurd hdone (by simp)
  | received pc n buf s hpc hidle hn hsize hdata => rfl
  | finished n buf s hn hbuf => rfl

/-- Only reading the data finishes an exchange. -/
theorem getData_of_done {l : ReceiveExchange.Label} (h : OnTime x c)
    (hstep : Takes ReceiveExchange.step c l d) (hdone : d.pc = .done) :
    c.pc = .getData ∧ d.st = c.st := by
  obtain ⟨pc, n, buf, s, pending⟩ := c
  cases l with
  | deliver =>
    obtain ⟨data, rest, hpending, rfl⟩ := ReceiveExchange.takes_deliver hstep
    have hnone : pending = [] := pending_of_done h hdone
    rw [hnone] at hpending
    exact absurd hpending (by simp)
  | app =>
    cases pc with
    | waitEvent =>
      obtain ⟨-, rfl⟩ := ReceiveExchange.takes_wait (Or.inl ⟨rfl, rfl⟩) hstep
      exact absurd hdone (by simp)
    | getBytes =>
      have hd := ReceiveExchange.takes_getBytes hstep
      rw [hd] at hdone
      exact absurd hdone (by simp)
    | waitData =>
      obtain ⟨-, rfl⟩ := ReceiveExchange.takes_wait (Or.inr ⟨rfl, rfl⟩) hstep
      exact absurd hdone (by simp)
    | getData =>
      have hd := ReceiveExchange.takes_getData hstep
      rw [hd]
      exact ⟨rfl, rfl⟩
    | done => exact absurd hstep (by simp [Takes, ReceiveExchange.step])

theorem idle_of_getData (h : OnTime x c) (hpc : c.pc = .getData) : Idle c.st := by
  cases h with
  | requested n buf s hawaits => exact absurd hpc (by simp)
  | answered pc n buf s hwhere hidle hcount => exact hidle
  | counted n buf s hawaits hn => exact absurd hpc (by simp)
  | received pc n buf s hwhere hidle hn hsize hdata => exact hidle
  | finished n buf s hn hbuf => exact absurd hpc (by simp)

theorem Timely.step {l : ReceiveExchange.Label} (h : Timely x c)
    (hstep : Takes ReceiveExchange.step c l d) :
    (AfterCount c l d ∧ Timely x d) ∨ (¬ AfterCount c l d ∧ Early x d) := by
  rcases h.phase.step hstep with ⟨hafter, hphase⟩ | hearly
  · refine Or.inl ⟨hafter, hphase, fun hdone => ?_⟩
    obtain ⟨hpc, hst⟩ := getData_of_done h.phase hstep hdone
    rw [hst]
    exact idle_of_getData h.phase hpc
  · exact Or.inr hearly

theorem timely_start (x : Exchange) (s : State) (hready : s.cc3000IsReady = 1) (buf : Mem) :
    Timely x (x.start s buf) :=
  ⟨ReceiveExchange.onTime_start x s hready buf, fun hdone => absurd hdone (by
    simp [Exchange.start])⟩

theorem bytesFrom_of_holds {m : Mem} {bytes : List Byte} (h : Holds m 0 bytes) :
    bytesFrom m bytes.length = bytes := by
  apply List.ext_getElem (length_bytesFrom m _)
  intro i hi hi'
  simpa [bytesFrom] using h i hi'

theorem Timely.brought (h : Timely x c) (hdone : c.pc = .done) :
    bytesFrom c.buf c.numBytes.toNat = x.payload := by
  obtain ⟨hn, hbuf⟩ := h.phase.served.finished hdone
  rw [hn, bytesFrom_of_holds hbuf]

theorem brought_of_early (h : Early x c) (hdone : c.pc = .done) :
    bytesFrom c.buf c.numBytes.toNat = [] := by
  cases h with
  | overwritten pc n buf s hpc hidle =>
    rcases hpc with rfl | rfl
    · exact absurd hdone (by simp)
    · exact absurd hdone (by simp)
  | stuck n buf s hawaits => exact absurd hdone (by simp)
  | nothing pc buf s hpc hidle => rfl

theorem idle_of_early (h : Early x c) (hdone : c.pc = .done) : Idle c.st := by
  cases h with
  | overwritten pc n buf s hpc hidle => exact hidle
  | stuck n buf s hawaits => exact absurd hdone (by simp)
  | nothing pc buf s hpc hidle => exact hidle

/-- An exchange on time goes on until the application has the data. -/
theorem Timely.goes_on (h : Timely x c) (hlast : ∀ l, ReceiveExchange.step c l = none) :
    c.pc = .done := by
  have happ := hlast .app
  have hdeliver := hlast .deliver
  cases h.phase with
  | requested n buf s hawaits => exact absurd hdeliver (by simp [ReceiveExchange.step])
  | answered pc n buf s hpc hidle hcount =>
    exact absurd hdeliver (by simp [ReceiveExchange.step])
  | counted n buf s hawaits hn => exact absurd hdeliver (by simp [ReceiveExchange.step])
  | received pc n buf s hpc hidle hn hsize hdata =>
    rcases hpc with rfl | rfl
    · exact absurd happ (by simp [ReceiveExchange.step, hidle.ready])
    · exact absurd happ (by simp [ReceiveExchange.step])
  | finished n buf s hn hbuf => rfl

end Exchanges

section Payloads

theorem payloads_append (xs ys : List Exchange) :
    payloads (xs ++ ys) = payloads xs ++ payloads ys := List.flatMap_append

theorem payloads_concat (xs : List Exchange) (x : Exchange) :
    payloads (xs ++ [x]) = payloads xs ++ x.payload := by
  rw [payloads_append]
  simp [payloads]

/-- Every exchange left out is at least a byte left out. -/
theorem length_payloads_of_sublist {kept xs : List Exchange} (h : kept.Sublist xs) :
    (payloads kept).length + xs.length ≤ (payloads xs).length + kept.length := by
  induction h with
  | slnil => exact Nat.le_refl _
  | cons x hrest ih =>
    have hpos := x.payload_length.1
    simp only [payloads, List.flatMap_cons, List.length_append, List.length_cons] at ih ⊢
    omega
  | cons_cons x hrest ih =>
    simp only [payloads, List.flatMap_cons, List.length_append, List.length_cons] at ih ⊢
    omega

end Payloads

/-- All exchanges so far were on time: what they brought is there, and the one under way
is on time. -/
def Lossless (xs : List Exchange) (r : Reader) : Prop :=
  ∃ past x, xs = past ++ x :: r.todo ∧ r.received = payloads past ∧ Timely x r.exchange

/-- Some exchange was not: of the finished ones some brought their data and some nothing,
or the one under way will bring nothing. -/
def Lossy (xs : List Exchange) (r : Reader) : Prop :=
  ∃ past kept x, xs = past ++ x :: r.todo ∧ kept.Sublist past ∧ r.received = payloads kept ∧
    (Early x r.exchange ∨ (Timely x r.exchange ∧ kept.length < past.length))

section Steps

variable {xs : List Exchange} {r t : Reader} {l : Label}

theorem takes_exchange {e : ReceiveExchange.Label} (h : Takes step r (.exchange e) t) :
    ∃ c, Takes ReceiveExchange.step r.exchange e c ∧ t = { r with exchange := c } := by
  unfold Takes step at h
  cases hc : ReceiveExchange.step r.exchange e with
  | none => simp [hc] at h
  | some c =>
    simp only [hc, Option.some.injEq] at h
    exact ⟨c, hc, h.symm⟩

theorem takes_unsolicited {u : Mem} :
    Takes step r (.unsolicited u) t ↔ Unsolicited u ∧
      t = { r with exchange := { r.exchange with st := handle u r.exchange.st } } := by
  unfold Takes step
  simp only [Option.ite_none_right_eq_some, Option.some.injEq, and_congr_right_iff]
  exact fun _ => eq_comm

theorem takes_next (h : Takes step r .next t) :
    r.exchange.pc = .done ∧ ∃ x xs, r.todo = x :: xs ∧
      t = ⟨x.start r.exchange.st r.exchange.buf, xs, r.collected⟩ := by
  unfold Takes step at h
  cases hpc : r.exchange.pc <;> cases htodo : r.todo <;>
    simp only [hpc, htodo, Option.some.injEq, reduceCtorEq] at h
  exact ⟨rfl, _, _, rfl, h.symm⟩

theorem inTime_exchange {e : ReceiveExchange.Label} :
    InTime r (.exchange e) t ↔ AfterCount r.exchange e t.exchange := by
  constructor
  · intro h
    exact h e rfl
  · intro h e' heq
    obtain rfl := Label.exchange.inj heq
    exact h

theorem Timely.collected {x : Exchange} (h : Timely x r.exchange) :
    r.collected = r.received ++ if r.exchange.pc = .done then x.payload else [] := by
  unfold Reader.collected
  by_cases hdone : r.exchange.pc = .done
  · rw [if_pos hdone, if_pos hdone, h.brought hdone]
  · rw [if_neg hdone, if_neg hdone]

theorem collected_of_early {x : Exchange} (h : Early x r.exchange) :
    r.collected = r.received := by
  unfold Reader.collected
  by_cases hdone : r.exchange.pc = .done
  · rw [if_pos hdone, brought_of_early h hdone, List.append_nil]
  · rw [if_neg hdone, List.append_nil]

/-- One step either keeps everything there or is a data frame coming too early. -/
theorem Lossless.step (h : Lossless xs r) (hstep : Takes step r l t) :
    (InTime r l t ∧ Lossless xs t) ∨ (¬ InTime r l t ∧ Lossy xs t) := by
  obtain ⟨past, x, hxs, hreceived, htimely⟩ := h
  cases l with
  | exchange e =>
    obtain ⟨c, hc, rfl⟩ := takes_exchange hstep
    rw [inTime_exchange]
    rcases htimely.step hc with ⟨hafter, hnext⟩ | ⟨hbefore, hearly⟩
    · exact Or.inl ⟨hafter, past, x, hxs, hreceived, hnext⟩
    · exact Or.inr ⟨hbefore, past, past, x, hxs, List.Sublist.refl past, hreceived,
        Or.inl hearly⟩
  | unsolicited u =>
    obtain ⟨hu, rfl⟩ := takes_unsolicited.mp hstep
    exact Or.inl ⟨fun e heq => absurd heq (by simp), past, x, hxs, hreceived,
      htimely.unsolicited hu⟩
  | next =>
    obtain ⟨hdone, y, ys, htodo, rfl⟩ := takes_next hstep
    refine Or.inl ⟨fun e heq => absurd heq (by simp), past ++ [x], y, ?_, ?_, ?_⟩
    · rw [hxs, htodo, List.append_assoc]
      rfl
    · rw [htimely.collected, if_pos hdone, hreceived, payloads_concat]
    · exact timely_start y _ (htimely.idle hdone).ready _

/-- What is lost stays lost, and nothing else is. -/
theorem Lossy.step (h : Lossy xs r) (hstep : Takes step r l t) : Lossy xs t := by
  obtain ⟨past, kept, x, hxs, hkept, hreceived, hphase⟩ := h
  cases l with
  | exchange e =>
    obtain ⟨c, hc, rfl⟩ := takes_exchange hstep
    refine ⟨past, kept, x, hxs, hkept, hreceived, ?_⟩
    rcases hphase with hearly | ⟨htimely, hshort⟩
    · exact Or.inl (hearly.step hc)
    · rcases htimely.step hc with ⟨-, hnext⟩ | ⟨-, hearly⟩
      · exact Or.inr ⟨hnext, hshort⟩
      · exact Or.inl hearly
  | unsolicited u =>
    obtain ⟨hu, rfl⟩ := takes_unsolicited.mp hstep
    refine ⟨past, kept, x, hxs, hkept, hreceived, ?_⟩
    rcases hphase with hearly | ⟨htimely, hshort⟩
    · exact Or.inl (early_unsolicited hearly hu)
    · exact Or.inr ⟨htimely.unsolicited hu, hshort⟩
  | next =>
    obtain ⟨hdone, y, ys, htodo, rfl⟩ := takes_next hstep
    have hsplit : xs = (past ++ [x]) ++ y :: ys := by
      rw [hxs, htodo, List.append_assoc]
      rfl
    have hlength : (past ++ [x]).length = past.length + 1 := List.length_append
    rcases hphase with hearly | ⟨htimely, hshort⟩
    · have hidle := idle_of_early hearly hdone
      have hle := hkept.length_le
      refine ⟨past ++ [x], kept, y, hsplit, hkept.trans (List.sublist_append_left past [x]),
        ?_, Or.inr ⟨timely_start y _ hidle.ready _, by omega⟩⟩
      exact (collected_of_early hearly).trans hreceived
    · have hidle := htimely.idle hdone
      have hkept' : (kept ++ [x]).length = kept.length + 1 := List.length_append
      refine ⟨past ++ [x], kept ++ [x], y, hsplit, hkept.append (List.Sublist.refl [x]),
        ?_, Or.inr ⟨timely_start y _ hidle.ready _, by omega⟩⟩
      change r.collected = _
      rw [htimely.collected, if_pos hdone, hreceived, payloads_concat]

end Steps

theorem lossless_start (x : Exchange) (xs : List Exchange) (s : State)
    (hready : s.cc3000IsReady = 1) (buf : Mem) : Lossless (x :: xs) (start x xs s buf) :=
  ⟨[], x, rfl, rfl, timely_start x s hready buf⟩

/-- The phase a run ends in tells whether every data frame came on time. -/
theorem run_phase {x : Exchange} {xs : List Exchange} {s : State}
    (hready : s.cc3000IsReady = 1) {buf : Mem} {ls : List Label} {t : Reader}
    (hrun : Run (Takes step) (start x xs s buf) ls t) :
    (Along (Takes step) InTime (start x xs s buf) ls ∧ Lossless (x :: xs) t) ∨
      (¬ Along (Takes step) InTime (start x xs s buf) ls ∧ Lossy (x :: xs) t) :=
  hrun.two_phases (fun _ _ _ h hs => h.step hs) (fun _ _ _ h hs => h.step hs)
    (lossless_start x xs s hready buf)

def Reader.outstanding (r : Reader) : ℕ :=
  r.todo.length + if r.exchange.pc = .done then 0 else 1

theorem Lossless.collected {xs : List Exchange} {r : Reader} (h : Lossless xs r) :
    ∃ past later, xs = past ++ later ∧ later.length = r.outstanding ∧
      r.collected = payloads past := by
  obtain ⟨past, x, hxs, hreceived, htimely⟩ := h
  unfold Reader.outstanding
  by_cases hdone : r.exchange.pc = .done
  · refine ⟨past ++ [x], r.todo, ?_, by rw [if_pos hdone]; rfl, ?_⟩
    · rw [hxs, List.append_assoc]
      rfl
    · rw [htimely.collected, if_pos hdone, hreceived, payloads_concat]
  · refine ⟨past, x :: r.todo, hxs, by rw [if_neg hdone]; rfl, ?_⟩
    rw [htimely.collected, if_neg hdone, hreceived, List.append_nil]

/-- After a loss some exchanges have brought their data, and not all. -/
theorem Lossy.collected {xs : List Exchange} {r : Reader} (h : Lossy xs r) :
    ∃ kept, kept.Sublist xs ∧ kept.length < xs.length ∧ r.collected = payloads kept := by
  obtain ⟨past, kept, x, hxs, hkept, hreceived, hphase⟩ := h
  have hle := hkept.length_le
  have hlength : xs.length = past.length + (r.todo.length + 1) := by
    rw [hxs, List.length_append, List.length_cons]
  have hpast : kept.Sublist xs := by
    rw [hxs]
    exact hkept.trans (List.sublist_append_left past _)
  rcases hphase with hearly | ⟨htimely, hshort⟩
  · exact ⟨kept, hpast, by omega, (collected_of_early hearly).trans hreceived⟩
  · by_cases hdone : r.exchange.pc = .done
    · refine ⟨kept ++ [x], ?_, by rw [List.length_append, List.length_singleton]; omega, ?_⟩
      · rw [hxs]
        exact hkept.append (List.singleton_sublist.mpr List.mem_cons_self)
      · rw [htimely.collected, if_pos hdone, hreceived, payloads_concat]
    · refine ⟨kept, hpast, by omega, ?_⟩
      rw [htimely.collected, if_neg hdone, hreceived, List.append_nil]

/-- For every run of exchanges, with unsolicited events at any point: what is collected is
the payloads of some of the exchanges, whole and in order; and as long as every data frame
comes after the count is read, it is those of all exchanges but the outstanding ones. -/
theorem collected_in_order (x : Exchange) (xs : List Exchange) (s : State)
    (hready : s.cc3000IsReady = 1) (buf : Mem) (ls : List Label) (t : Reader)
    (hrun : Run (Takes step) (start x xs s buf) ls t) :
    (∃ kept, kept.Sublist (x :: xs) ∧ t.collected = payloads kept) ∧
    (Along (Takes step) InTime (start x xs s buf) ls →
      ∃ past later, x :: xs = past ++ later ∧ later.length = t.outstanding ∧
        t.collected = payloads past) := by
  rcases run_phase hready hrun with ⟨halong, hphase⟩ | ⟨halong, hphase⟩
  · obtain ⟨past, later, hsplit, hlength, hcollected⟩ := hphase.collected
    refine ⟨⟨past, ?_, hcollected⟩, fun _ => ⟨past, later, hsplit, hlength, hcollected⟩⟩
    rw [hsplit]
    exact List.sublist_append_left past later
  · obtain ⟨kept, hkept, -, hcollected⟩ := hphase.collected
    exact ⟨⟨kept, hkept, hcollected⟩, fun h => absurd h halong⟩

def twoBytes : Exchange where
  sd := 0
  len := 4
  flags := 0
  eventArgs := [0, 0, 0, 0, 2, 0, 0, 0, 0, 0, 0, 0]
  dataArgs := List.replicate 24 0
  payload := [5, 6]
  staleEvent := fun _ => 0
  staleData := fun _ => 0
  event_length := by decide
  count := by decide
  data_length := rfl
  payload_length := by decide

def twoExchanges : Reader :=
  start ReceiveExchange.fourBytes [twoBytes] (initial fun _ => 0) fun _ => 0

def wholeExchange : List Label := ReceiveExchange.onTimeRun.map .exchange

/-- Both to their end, with a connect event after the first count. -/
def wholeStream : List Label :=
  wholeExchange.take 1 ++ .unsolicited connectEvent :: wholeExchange.drop 1 ++
    .next :: wholeExchange

instance (r : Reader) (l : Label) (t : Reader) : Decidable (InTime r l t) :=
  match l with
  | .exchange _ => decidable_of_iff _ inTime_exchange.symm
  | .unsolicited _ => isTrue fun _ h => Label.noConfusion h
  | .next => isTrue fun _ h => Label.noConfusion h

theorem run_wholeStream :
    ∃ t, Run (Takes step) twoExchanges wholeStream t ∧ t.exchange.pc = .done ∧
      t.exchange.pending = [] ∧ t.todo = [] := by
  have hend : (after step twoExchanges wholeStream).map
      (fun t => (t.exchange.pc, t.exchange.pending.length, t.todo.length)) =
        some (.done, 0, 0) := by decide
  obtain ⟨t, ht, hlast⟩ := Option.map_eq_some_iff.mp hend
  simp only [Prod.mk.injEq, List.length_eq_zero_iff] at hlast
  exact ⟨t, run_of_after ht, hlast⟩

theorem inTime_wholeStream : Along (Takes step) InTime twoExchanges wholeStream := by decide

theorem collected_in_order_connect :
    ∃ t, Run (Takes step) twoExchanges wholeStream t ∧ t.collected = [1, 2, 3, 4, 5, 6] := by
  obtain ⟨t, hrun, hdone, -, htodo⟩ := run_wholeStream
  obtain ⟨past, later, hsplit, hlength, hcollected⟩ :=
    (collected_in_order _ _ _ (by decide) _ _ t hrun).2 inTime_wholeStream
  have hnone : later = [] := by
    apply List.length_eq_zero_iff.mp
    rw [hlength, Reader.outstanding, htodo, if_pos hdone]
    rfl
  rw [hnone, List.append_nil] at hsplit
  refine ⟨t, hrun, ?_⟩
  rw [hcollected, ← hsplit]
  rfl

section Work

def workLeft (c : Config) : ℕ :=
  c.pending.length +
    match c.pc with
    | .waitEvent => 4
    | .getBytes => 3
    | .waitData => 2
    | .getData => 1
    | .done => 0

def Reader.workLeft (r : Reader) : ℕ := ReceiveStream.workLeft r.exchange + 7 * r.todo.length

theorem workLeft_step {c d : Config} {l : ReceiveExchange.Label}
    (hstep : Takes ReceiveExchange.step c l d) : workLeft d + 1 = workLeft c := by
  obtain ⟨pc, n, buf, s, pending⟩ := c
  cases l with
  | deliver =>
    obtain ⟨data, rest, rfl, rfl⟩ := ReceiveExchange.takes_deliver hstep
    simp only [workLeft, List.length_cons]
    omega
  | app =>
    cases pc with
    | waitEvent =>
      obtain ⟨-, rfl⟩ := ReceiveExchange.takes_wait (Or.inl ⟨rfl, rfl⟩) hstep
      rfl
    | getBytes =>
      rw [ReceiveExchange.takes_getBytes hstep]
      rfl
    | waitData =>
      obtain ⟨-, rfl⟩ := ReceiveExchange.takes_wait (Or.inr ⟨rfl, rfl⟩) hstep
      rfl
    | getData =>
      rw [ReceiveExchange.takes_getData hstep]
      rfl
    | done => exact absurd hstep (by simp [Takes, ReceiveExchange.step])

theorem Reader.workLeft_step {r t : Reader} {l : Label} (hstep : Takes step r l t) :
    (if l.own then 1 else 0) + t.workLeft ≤ r.workLeft := by
  cases l with
  | exchange e =>
    obtain ⟨c, hc, rfl⟩ := takes_exchange hstep
    have hwork := ReceiveStream.workLeft_step hc
    simp only [Reader.workLeft, Label.own, if_true]
    omega
  | unsolicited u =>
    obtain ⟨-, rfl⟩ := takes_unsolicited.mp hstep
    simp [Reader.workLeft, Label.own, ReceiveStream.workLeft]
  | next =>
    obtain ⟨hdone, x, xs, htodo, rfl⟩ := takes_next hstep
    have hstart : ReceiveStream.workLeft (x.start r.exchange.st r.exchange.buf) = 6 := rfl
    simp only [Reader.workLeft, Label.own, if_true, hstart, htodo, List.length_cons]
    omega

theorem Reader.stopped (r : Reader) (h : r.workLeft = 0) {l : Label} (hown : l.own = true) :
    step r l = none := by
  cases hstep : step r l with
  | none => rfl
  | some t =>
    have hwork := Reader.workLeft_step hstep
    rw [if_pos hown, h] at hwork
    omega

end Work

/-- A reader without loss that can go no further has everything. -/
theorem Lossless.finished {xs : List Exchange} {r : Reader} (h : Lossless xs r)
    (hlast : ∀ l, l.own = true → ReceiveStream.step r l = none) :
    r.collected = payloads xs := by
  obtain ⟨past, x, hxs, hreceived, htimely⟩ := h
  have hdone : r.exchange.pc = .done := by
    refine htimely.goes_on fun e => ?_
    have hnone := hlast (.exchange e) rfl
    unfold ReceiveStream.step at hnone
    cases he : ReceiveExchange.step r.exchange e with
    | none => rfl
    | some c => simp [he] at hnone
  have htodo : r.todo = [] := by
    have hnone := hlast .next rfl
    unfold ReceiveStream.step at hnone
    cases htodo : r.todo with
    | nil => rfl
    | cons y ys => simp [hdone, htodo] at hnone
  rw [htimely.collected, if_pos hdone, hreceived, hxs, htodo, payloads_concat]

/-- Every run of so many exchanges has at most seven steps of the application and its
frames for each, whatever unsolicited events come in between; and where none is possible
any more, everything the peer sent has been collected exactly if every data frame came
after its count was read. -/
theorem collected_all_iff (x : Exchange) (xs : List Exchange) (s : State)
    (hready : s.cc3000IsReady = 1) (buf : Mem) (ls : List Label) (t : Reader)
    (hrun : Run (Takes step) (start x xs s buf) ls t) :
    ls.countP Label.own ≤ 7 * (x :: xs).length ∧
    ((∀ l, l.own = true → step t l = none) →
      (t.collected = payloads (x :: xs) ↔
        Along (Takes step) InTime (start x xs s buf) ls)) := by
  constructor
  · have hbound : ls.countP Label.own + t.workLeft ≤ 6 + 7 * xs.length :=
      hrun.countP_le fun _ _ _ hs => Reader.workLeft_step hs
    rw [List.length_cons]
    omega
  · intro hlast
    rcases run_phase hready hrun with ⟨halong, hphase⟩ | ⟨halong, hphase⟩
    · exact ⟨fun _ => halong, fun _ => hphase.finished hlast⟩
    · refine ⟨fun hall => ?_, fun h => absurd h halong⟩
      obtain ⟨kept, hkept, hshort, hcollected⟩ := hphase.collected
      have hlength := length_payloads_of_sublist hkept
      rw [← hcollected, hall] at hlength
      omega

theorem collected_all_iff_connect :
    ∃ t, Run (Takes step) twoExchanges wholeStream t ∧ wholeStream.countP Label.own ≤ 14 ∧
      (∀ l, l.own = true → step t l = none) ∧ t.collected = [1, 2, 3, 4, 5, 6] := by
  obtain ⟨t, hrun, hdone, hpending, htodo⟩ := run_wholeStream
  obtain ⟨hbound, hiff⟩ := collected_all_iff _ _ _ (by decide) _ _ t hrun
  have hwork : t.workLeft = 0 := by
    simp [Reader.workLeft, workLeft, hdone, hpending, htodo]
  have hlast : ∀ l, l.own = true → step t l = none := fun l hown => t.stopped hwork hown
  exact ⟨t, hrun, hbound, hlast, (hiff hlast).mpr inTime_wholeStream⟩

end Cc3000Async.ReceiveStream
