import Cc3000Async.ReturnedValues
import Cc3000Async.SocketResponses

/-!
Socket addresses on the wire. A connect and a bind send the address after three words, the
family in the byte order of the link and the port in network order; the answer to an
accept carries an address of the same form, which is taken apart byte by byte.
-/
namespace Cc3000Async.SocketAddresses

open ByteMemory ByteBlocks Opcodes TracedAccess DriverState HciFrames EventHandler
open DeviceFrames SocketOperations SocketResponses ArgumentBlocks ReturnedValues

def addressBytes (port : BitVec 16) (addr : IpAddr) : List Byte :=
  [afInet.setWidth 8, (afInet >>> 8).setWidth 8, (port >>> 8).setWidth 8, port.setWidth 8] ++
    List.ofFn addr.ip

def leadingWords (sd : Byte) : List Byte := toBytes 4 sd.toNat ++ toBytes 4 8 ++ toBytes 4 8

theorem toBytes_htons (port : BitVec 16) :
    toBytes 2 (htons port).toNat = [(port >>> 8).setWidth 8, port.setWidth 8] := by
  have hlow : (htons port).setWidth 8 = (port >>> 8).setWidth 8 := by
    apply BitVec.eq_of_getLsbD_eq
    intro i hi
    have hinside : 8 + i < 32 := by omega
    simp [htons, hi, hinside]
  have hhigh : (htons port >>> 8).setWidth 8 = port.setWidth 8 := by
    apply BitVec.eq_of_getLsbD_eq
    intro i hi
    have hinside : 8 + i < 16 := by omega
    have hpast : port.getLsbD (8 + (8 + i)) = false := BitVec.getLsbD_of_ge _ _ (by omega)
    have hbit : port[i] = port.getLsbD i := (BitVec.getLsbD_eq_getElem (by omega)).symm
    simp [htons, hi, hinside, hpast, hbit]
  rw [toBytes_two, hlow, hhigh]

/-- The word that `cc3000_connect` assembles from the address. -/
theorem toBytes_addr32 (addr : IpAddr) :
    toBytes 4 ((addr.ip 0).setWidth 32 + ((addr.ip 1).setWidth 32 <<< 8) +
        ((addr.ip 2).setWidth 32 <<< 16) + ((addr.ip 3).setWidth 32 <<< 24)).toNat =
      List.ofFn addr.ip := by
  have h0 := (addr.ip 0).isLt
  have h1 := (addr.ip 1).isLt
  have h2 := (addr.ip 2).isLt
  have h3 := (addr.ip 3).isLt
  have hvalue : ((addr.ip 0).setWidth 32 + ((addr.ip 1).setWidth 32 <<< 8) +
      ((addr.ip 2).setWidth 32 <<< 16) + ((addr.ip 3).setWidth 32 <<< 24)).toNat =
      littleEndian [addr.ip 0, addr.ip 1, addr.ip 2, addr.ip 3] := by
    rw [littleEndian_four, toNat_word32]
    simp [Nat.shiftLeft_eq]
    omega
  rw [hvalue]
  exact toBytes_littleEndian [addr.ip 0, addr.ip 1, addr.ip 2, addr.ip 3]

theorem connect_block (sd : Byte) (port : BitVec 16) (addr : IpAddr) :
    streamed (cc3000Connect sd port addr).calls = leadingWords sd ++ addressBytes port addr := by
  rw [streamed_eq_flatten]
  simp only [cc3000Connect, List.map_cons, List.map_nil, fieldOf, toNat_widen, toBytes_htons,
    toBytes_addr32, toBytes_two afInet, leadingWords, addressBytes, List.flatten_cons,
    List.flatten_nil, List.append_assoc, List.append_nil, List.cons_append, List.nil_append]
  rfl

def zeroAddr : IpAddr := ⟨fun _ => 0⟩

theorem bind_block (sd : Byte) (port : BitVec 16) :
    streamed (cc3000Bind sd port).calls = leadingWords sd ++ addressBytes port zeroAddr := by
  rw [streamed_eq_flatten]
  simp only [cc3000Bind, List.map_cons, List.map_nil, fieldOf, toNat_widen, toBytes_htons,
    toBytes_two afInet, leadingWords, addressBytes, List.flatten_cons, List.flatten_nil,
    List.append_assoc, List.append_nil, List.cons_append, List.nil_append]
  rfl

theorem length_addressArgs (sd : Byte) (port : BitVec 16) (addr : IpAddr) :
    (leadingWords sd ++ addressBytes port addr).length = 20 := by
  simp only [leadingWords, addressBytes, List.length_append, length_toBytes, List.length_cons,
    List.length_nil, List.length_ofFn]

theorem getElem_addressBytes (port : BitVec 16) (addr : IpAddr) (i : Fin 4)
    (h : 4 + i.val < (addressBytes port addr).length) :
    (addressBytes port addr)[4 + i.val] = addr.ip i := by
  have hindex : 4 + i.val - 4 = i.val := Nat.add_sub_cancel_left 4 i.val
  apply Option.some.inj
  rw [← List.getElem?_eq_getElem h, addressBytes,
    List.getElem?_append_right (Nat.le_add_right 4 i.val)]
  simp only [List.length_cons, List.length_nil, hindex, List.getElem?_ofFn, i.isLt, dite_true]

/-- What an accept yields when the address stands in the arguments of its answer. -/
structure YieldsAddress (args : List Byte) (port : BitVec 16) (addr : IpAddr)
    (before : SockAddr) (result : AcceptResult) : Prop where
  family : result.addr.saFamily = afInet
  portHigh : result.addr.saData 0 = (port >>> 8).setWidth 8
  portLow : result.addr.saData 1 = port.setWidth 8
  ip : ∀ i : Fin 4, result.addr.saData (i.natAdd 2 |>.castLE (by omega)) = addr.ip i
  rest : ∀ i : Fin 14, 6 ≤ i.val → result.addr.saData i = before.saData i
  ret : ∃ word, wordAt args 4 4 = some word ∧ result.ret.toInt = Int.bmod word (2 ^ 32)

theorem yieldsAddress_of_holds {args : List Byte} {port : BitVec 16} {addr : IpAddr}
    {s : State} (h : Holds s.returnBuffer 0 args)
    (haddr : slice args 8 8 = some (addressBytes port addr)) (sd : Byte) (before : SockAddr)
    (evtRet : Mem) :
    YieldsAddress args port addr before (cc3000GetAccecpt sd before evtRet s).val := by
  have hbytes : Holds s.returnBuffer 8 (addressBytes port addr) := by
    simpa only [Nat.zero_add] using holds_of_slice h haddr
  have hlen : (addressBytes port addr).length = 8 := rfl
  have hfits : 8 + 8 ≤ args.length := (Option.ite_none_right_eq_some.mp haddr).1
  have hword : wordAt args 4 4 = some (littleEndian ((args.drop 4).take 4)) := by
    rw [wordAt, slice, if_pos (by omega), Option.map_some]
  have hret : (cc3000GetReturnInt32 s 4).val.toNat = littleEndian ((args.drop 4).take 4) :=
    returnedWord32_of_wordAt h hword
  have hlsb : s.returnBuffer 8 = afInet.setWidth 8 := hbytes 0 (by omega)
  have hmsb : s.returnBuffer 9 = (afInet >>> 8).setWidth 8 := hbytes 1 (by omega)
  rw [val_cc3000GetAccecpt]
  refine ⟨?_, hbytes 2 (by omega), hbytes 3 (by omega), ?_, ?_, ?_⟩
  · change (((s.returnBuffer 9).setWidth 32 <<< 8) |||
      (s.returnBuffer 8).setWidth 32).setWidth 16 = afInet
    rw [hmsb, hlsb]
    rfl
  · intro i
    have hi := i.isLt
    have hindex : 10 + (2 + i.val) = 8 + (4 + i.val) := by omega
    change (if 2 + i.val < 6 then s.returnBuffer (10 + (2 + i.val)) else _) = _
    rw [if_pos (by omega), hindex, hbytes (4 + i.val) (by omega),
      getElem_addressBytes]
  · intro i hi
    exact if_neg (Nat.not_lt.mpr hi)
  · refine ⟨_, hword, ?_⟩
    rw [BitVec.toInt_eq_toNat_bmod, hret]

/-- Every answer to an accept that brings the address at argument offset 8 yields it. -/
def AcceptDecodes (s : State) (sd : Byte) (port : BitVec 16) (addr : IpAddr) : Prop :=
  ∀ (data : Mem) (args : List Byte) (before : SockAddr) (evtRet : Mem),
    Holds data 0 (eventFrame hciEvntAccept args) → args.length < 256 →
    slice args 8 8 = some (addressBytes port addr) →
    YieldsAddress args port addr before (cc3000GetAccecpt sd before evtRet (handle data s)).val

/-- For every port, address, socket and driver state: what a connect sends of an address,
a bind of the address of no host, and an accept decodes are the same eight bytes. -/
theorem addresses_survive (port : BitVec 16) (addr : IpAddr) (sd : Byte) (s : State) :
    EmitsCommand s ((cc3000Connect sd port addr).prog.exec s) hciCmndConnect
        (leadingWords sd ++ addressBytes port addr) ∧
      EmitsCommand s ((cc3000Bind sd port).prog.exec s) hciCmndBind
        (leadingWords sd ++ addressBytes port zeroAddr) ∧
      AcceptDecodes s sd port addr := by
  refine ⟨?_, ?_, ?_⟩
  · apply emitsCommand_prog _ s (connect_block sd port addr)
    rw [length_addressArgs]
    rfl
  · apply emitsCommand_prog _ s (bind_block sd port)
    rw [length_addressArgs]
    rfl
  · intro data args before evtRet h hlen haddr
    exact yieldsAddress_of_holds (holds_returnBuffer h hlen (by decide) s) haddr sd before evtRet

/-- The answer that a peer at 192.168.0.200, port 8080, got socket 1. -/
def acceptedArgs : List Byte :=
  [0, 0, 0, 0, 1, 0, 0, 0, 2, 0, 0x1f, 0x90, 192, 168, 0, 200]

theorem accepted_yieldsAddress :
    YieldsAddress acceptedArgs 8080 ⟨![192, 168, 0, 200]⟩ ⟨0, fun _ => 0⟩
      (cc3000GetAccecpt 0 ⟨0, fun _ => 0⟩ (fun _ => 0)
        (handle (withPrefix (eventFrame hciEvntAccept acceptedArgs) fun _ => 0)
          (initial fun _ => 0))).val :=
  (addresses_survive 8080 ⟨![192, 168, 0, 200]⟩ 0 (initial fun _ => 0)).2.2 _ acceptedArgs _ _
    (holds_withPrefix _ _) (by decide) (by decide)

end Cc3000Async.SocketAddresses
