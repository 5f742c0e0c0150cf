import Cc3000Async.Requests

/-!
Declared against streamed lengths, for every operation that streams a command. The
two are computed side by side at different widths; they agree for all parameters of
most operations, and for the others exactly on the parameters described here.
-/
namespace Cc3000Async.ArgumentLengths

open ByteMemory Opcodes DriverState HciFrames SocketOperations WlanOperations Requests

def callSize : SendCall → ℕ
  | .uint8 _ => 1
  | .uint16 _ => 2
  | .uint32 _ => 4
  | .stream _ size => size.toNat

def callsSize : List SendCall → ℕ
  | [] => 0
  | c :: calls => callSize c + callsSize calls

theorem streamed_length (calls : List SendCall) :
    (streamed calls).length = callsSize calls := by
  induction calls with
  | nil => rfl
  | cons c calls ih =>
    have hcall : c.prog.sent.length = callSize c := by
      cases c with
      | uint8 u => rfl
      | uint16 u => rfl
      | uint32 u => rfl
      | stream u size =>
        have hsent : (SendCall.stream u size).prog =
            ((List.range size.toNat).map u).map .spiSend := by
          simp [SendCall.prog, cc3000HciSendStream]
        rw [hsent, Prog.sent_map_spiSend, List.length_map, List.length_range]
        rfl
    rw [streamed_cons, List.length_append, ih, hcall, callsSize]

@[simp] theorem callsSize_nil : callsSize [] = 0 := rfl

@[simp] theorem callsSize_cons (c : SendCall) (calls : List SendCall) :
    callsSize (c :: calls) = callSize c + callsSize calls := rfl

@[simp] theorem callsSize_append (xs ys : List SendCall) :
    callsSize (xs ++ ys) = callsSize xs + callsSize ys := by
  induction xs with
  | nil => simp
  | cons c xs ih => rw [List.cons_append, callsSize_cons, callsSize_cons, ih, Nat.add_assoc]

@[simp] theorem callsSize_replicate (n : ℕ) (c : SendCall) :
    callsSize (List.replicate n c) = n * callSize c := by
  induction n with
  | zero => simp
  | succ n ih => rw [List.replicate_succ, callsSize_cons, ih, Nat.succ_mul, Nat.add_comm]

/-- A loop that sends bytes one by one streams as many bytes as it has rounds. -/
@[simp] theorem callsSize_sendEach (m : Mem) (n : ℕ) : callsSize (sendEach m n) = n := by
  induction n with
  | zero => rfl
  | succ n ih =>
    have hlast : sendEach m (n + 1) = sendEach m n ++ [.uint8 (m n)] := by
      simp [sendEach, List.range_succ]
    rw [hlast, callsSize_append, ih]
    rfl

structure LengthsAgree (c : Command) : Prop where
  args : (streamed c.calls).length = c.argsLength.toNat
  spi : (commandBytes c.opcode c.argsLength (streamed c.calls)).length =
    5 + (startSendLength (hciCommandHeaderLength + c.argsLength.setWidth 16)).toNat

/-- A call that the operation takes: it streams a command at all, with a name that is
not too long and a known security type. -/
def Accepted : Request → Prop
  | .start _ => False
  | .generalReqBufferSize => False
  | .socketMdnsAdvertise _ serviceName =>
      (serviceNameLength serviceName).toNat ≤ mdnsDeviceServiceMaxLength
  | .wlanAddProfile profile =>
      profile.ulSecType = wlanSecUnsec ∨ profile.ulSecType = wlanSecWep ∨
        profile.ulSecType = wlanSecWpa ∨ profile.ulSecType = wlanSecWpa2
  | _ => True

def ProfileFits (profile : Profile) : Prop :=
  if profile.ulSecType = wlanSecUnsec then 20 + profile.ulSsidLen.toNat % 256 ≤ 255
  else if profile.ulSecType = wlanSecWep then
    34 + profile.ulSsidLen.toNat % 256 +
      4 * (profile.ulPairwiseCipherOrTxKeyLen.toNat % 256) ≤ 255
  else 40 + profile.ulSsidLen.toNat % 256 + profile.ulPassPhraseLen.toNat % 256 ≤ 255

def LengthFits : Request → Prop
  | .setsockopt _ _ _ _ optlen => optlen = 2#32 ∨ optlen = 4#32 ∨ optlen.toNat % 256 = 0
  | .wlanConnect _ _ none => False
  | .wlanConnect ssid _ (some key) => 28 + ssid.strlen % 256 + key.strlen % 256 ≤ 255
  | .wlanAddProfile profile => ProfileFits profile
  | _ => True

/-- The SPI length is that of the declared frame with its padding, so it covers the
frame as soon as the arguments are as many as declared. -/
theorem lengthsAgree_iff_args (c : Command) :
    LengthsAgree c ↔ callsSize c.calls = c.argsLength.toNat := by
  rw [← streamed_length]
  constructor
  · intro h
    exact h.args
  · intro h
    refine ⟨h, ?_⟩
    have hlt := c.argsLength.isLt
    have hdeclared : (hciCommandHeaderLength + c.argsLength.setWidth 16).toNat =
        4 + c.argsLength.toNat := by
      have hfour : hciCommandHeaderLength.toNat = 4 := rfl
      rw [BitVec.toNat_add, BitVec.toNat_setWidth, hfour]
      omega
    obtain ⟨-, hlen, hpad⟩ | ⟨-, hlen, hpad⟩ :=
      startSend_cases (hciCommandHeaderLength + c.argsLength.setWidth 16)
    · rw [commandBytes, spiWrite, hpad, hlen, hdeclared]
      simp only [List.length_append, spiHeader, List.length_cons, List.length_nil, h]
      omega
    · rw [commandBytes, spiWrite, hpad, hlen, hdeclared]
      simp only [List.length_append, spiHeader, List.length_cons, List.length_nil, h]
      omega

theorem toNat_connectLength (string : CString) :
    (connectLength string).toNat = string.strlen % 256 := BitVec.toNat_ofNat _ _

theorem wlanConnect_iff (ssid key : CString) (secType : Byte) (c : Command)
    (hc : cc3000WlanConnect ssid secType (some key) = some c) :
    callsSize c.calls = c.argsLength.toNat ↔
      28 + ssid.strlen % 256 + key.strlen % 256 ≤ 255 := by
  simp only [cc3000WlanConnect, Option.some.injEq] at hc
  subst hc
  have hkey : callsSize (if connectLength key ≠ 0#8 then
      sendEach key.byteAt (connectLength key).toNat else []) = key.strlen % 256 := by
    split
    · rw [callsSize_sendEach, toNat_connectLength]
    · next hzero =>
      rw [not_not] at hzero
      rw [← toNat_connectLength, hzero]
      rfl
  have hbase : (28 : Byte).toNat = 28 := rfl
  simp only [callsSize_append, callsSize_cons, callsSize_nil, callsSize_replicate,
    callsSize_sendEach, hkey, callSize]
  rw [BitVec.toNat_add, BitVec.toNat_add, toNat_connectLength, toNat_connectLength, hbase]
  omega

theorem setsockopt_iff (sd : Byte) (level optname : BitVec 32) (optval : Mem)
    (optlen : BitVec 32) :
    callsSize (cc3000Setsockopt sd level optname optval optlen).calls =
        (cc3000Setsockopt sd level optname optval optlen).argsLength.toNat ↔
      optlen = 2#32 ∨ optlen = 4#32 ∨ optlen.toNat % 256 = 0 := by
  by_cases htwo : optlen = 2#32
  · subst htwo
    simp [cc3000Setsockopt, callSize]
  by_cases hfour : optlen = 4#32
  · subst hfour
    simp [cc3000Setsockopt, callSize]
  have hbase : (20 : BitVec 32).toNat = 20 := rfl
  simp only [cc3000Setsockopt, htwo, hfour, if_false, false_or, callsSize_append,
    callsSize_cons, callsSize_nil, callSize, BitVec.toNat_setWidth, BitVec.toNat_add, hbase]
  omega

theorem callsSize_wepCalls (p : Profile) :
    callsSize p.wepCalls =
      34 + p.ulSsidLen.toNat % 256 + 4 * (p.ulPairwiseCipherOrTxKeyLen.toNat % 256) := by
  have hethAlen : ethAlen.toNat = 6 := rfl
  have hkeys : callsSize ((List.range 4).map fun i =>
      SendCall.stream (p.wepKey i) (p.ulPairwiseCipherOrTxKeyLen.setWidth 8)) =
        4 * (p.ulPairwiseCipherOrTxKeyLen.toNat % 256) := by
    simp only [List.range_succ, List.range_zero, List.nil_append, List.map_append,
      List.map_cons, List.map_nil, callsSize_append, callsSize_cons, callsSize_nil, callSize,
      BitVec.toNat_setWidth]
    omega
  simp only [Profile.wepCalls, callsSize_append, callsSize_cons, callsSize_nil, hkeys, callSize,
    BitVec.toNat_setWidth, hethAlen]
  omega

theorem addProfile_iff (p : Profile) (c : Command) (hc : p.command = some c) :
    callsSize c.calls = c.argsLength.toNat ↔ ProfileFits p := by
  simp only [Profile.command, Option.map_eq_some_iff] at hc
  obtain ⟨⟨argLen, calls⟩, harg, rfl⟩ := hc
  have hethAlen : ethAlen.toNat = 6 := rfl
  unfold ProfileFits
  unfold Profile.arguments at harg
  by_cases hunsec : p.ulSecType = wlanSecUnsec
  · rw [if_pos hunsec, Option.some.injEq, Prod.mk.injEq] at harg
    obtain ⟨rfl, rfl⟩ := harg
    have hbase : (14 : BitVec 32).toNat = 14 := rfl
    rw [if_pos hunsec]
    simp only [Profile.unsecCalls, Profile.unsecLength, callsSize_cons, callsSize_nil, callSize,
      BitVec.toNat_setWidth, BitVec.toNat_add, hbase, hethAlen]
    omega
  rw [if_neg hunsec] at harg ⊢
  by_cases hwep : p.ulSecType = wlanSecWep
  · rw [if_pos hwep, Option.some.injEq, Prod.mk.injEq] at harg
    obtain ⟨rfl, rfl⟩ := harg
    have hbase : (28 : BitVec 32).toNat = 28 := rfl
    have hfour : (4 : BitVec 32).toNat = 4 := rfl
    rw [if_pos hwep, callsSize_wepCalls]
    simp only [Profile.wepLength, BitVec.toNat_setWidth, BitVec.toNat_add, BitVec.toNat_mul,
      hbase, hfour, hethAlen]
    omega
  rw [if_neg hwep] at harg ⊢
  simp only [Option.ite_none_right_eq_some, Option.some.injEq, Prod.mk.injEq] at harg
  obtain ⟨-, rfl, rfl⟩ := harg
  have hbase : (34 : BitVec 32).toNat = 34 := rfl
  simp only [Profile.wpaCalls, Profile.wpaLength, callsSize_cons, callsSize_nil, callSize,
    BitVec.toNat_setWidth, BitVec.toNat_add, hbase, hethAlen]
  omega

theorem mdnsCommand_size (mdnsEnabled : Byte) (serviceName : CString)
    (h : (serviceNameLength serviceName).toNat ≤ mdnsDeviceServiceMaxLength) :
    callsSize (mdnsCommand mdnsEnabled serviceName (serviceNameLength serviceName)).calls =
      (mdnsCommand mdnsEnabled serviceName (serviceNameLength serviceName)).argsLength.toNat := by
  have hbase : (12 : Byte).toNat = 12 := rfl
  have hmax : mdnsDeviceServiceMaxLength = 32 := rfl
  simp only [mdnsCommand, callsSize_append, callsSize_cons, callsSize_nil, callsSize_sendEach,
    callSize, BitVec.toNat_add, hbase]
  omega

theorem reqSelect_size (nfds : BitVec 32) (readsds writesds exceptsds : Option (BitVec 32))
    (timeout : Option Timeval) :
    callsSize (cc3000ReqSelect nfds readsds writesds exceptsds timeout).calls =
      (cc3000ReqSelect nfds readsds writesds exceptsds timeout).argsLength.toNat := by
  cases timeout <;> rfl

/-- For every operation that streams a command and all parameters it takes: what is
streamed is what is declared exactly for the parameters that fit. -/
theorem lengthsAgree_iff (r : Request) (h : Accepted r) :
    (∃ c, r.command = some c ∧ LengthsAgree c) ↔ LengthFits r := by
  have hone : ∀ c, r.command = some c →
      ((∃ c', r.command = some c' ∧ LengthsAgree c') ↔
        callsSize c.calls = c.argsLength.toNat) := by
    intro c hc
    rw [← lengthsAgree_iff_args]
    constructor
    · rintro ⟨c', hc', hagree⟩
      have heq := Option.some.inj (hc'.symm.trans hc)
      rw [← heq]
      exact hagree
    · intro hagree
      exact ⟨c, hc, hagree⟩
  cases r with
  | start patchesRequest => exact absurd h id
  | generalReqBufferSize => exact absurd h id
  | setsockopt sd level optname optval optlen =>
    rw [hone _ rfl]
    exact setsockopt_iff sd level optname optval optlen
  | reqSelect nfds readsds writesds exceptsds timeout =>
    rw [hone _ rfl]
    have hsize := reqSelect_size nfds readsds writesds exceptsds timeout
    exact ⟨fun _ => trivial, fun _ => hsize⟩
  | socketMdnsAdvertise mdnsEnabled serviceName =>
    have hshort : (serviceNameLength serviceName).toNat ≤ mdnsDeviceServiceMaxLength := h
    rw [hone _ (if_neg (Nat.not_lt.mpr hshort))]
    have hsize := mdnsCommand_size mdnsEnabled serviceName hshort
    exact ⟨fun _ => trivial, fun _ => hsize⟩
  | wlanConnect ssid secType key =>
    cases key with
    | none =>
      constructor
      · rintro ⟨c, hc, -⟩
        exact absurd hc (by simp [Request.command, cc3000WlanConnect])
      · exact fun hfits => absurd hfits id
    | some key =>
      rw [hone _ rfl]
      exact wlanConnect_iff ssid key secType _ rfl
  | wlanAddProfile profile =>
    obtain ⟨pair, hpair⟩ : ∃ pair, profile.arguments = some pair := by
      unfold Profile.arguments
      rcases h with h | h | h | h <;> simp [h, wlanSecUnsec, wlanSecWep, wlanSecWpa, wlanSecWpa2]
    have hc : profile.command = some _ := congrArg (Option.map _) hpair
    rw [hone _ hc]
    exact addProfile_iff profile _ hc
  | _ =>
    rw [hone _ rfl]
    exact ⟨fun _ => trivial, fun _ => rfl⟩

theorem lengthsAgree_iff_socket :
    (∃ c, (Request.reqSocket 2 1 6).command = some c ∧ LengthsAgree c) ↔
      LengthFits (.reqSocket 2 1 6) :=
  lengthsAgree_iff (.reqSocket 2 1 6) trivial

/-- An option of one byte: 21 argument bytes are declared and 20 streamed. -/
def oneByteOption : Request := .setsockopt 0 0xffff 1 (fun _ => 0) 1

theorem oneByteOption_short :
    Accepted oneByteOption ∧ ¬ ∃ c, oneByteOption.command = some c ∧ LengthsAgree c := by
  refine ⟨trivial, ?_⟩
  rintro ⟨c, hc, hagree⟩
  have heq := Option.some.inj hc
  subst heq
  exact absurd hagree.args (by decide)

end Cc3000Async.ArgumentLengths
