/-
The paths of CONNECT-UDP requests.

`UdpPath` is the form that a path has to have: the prefix, an address, and a port that is
the whole decimal text of a number below 2^16. The handler counts the parts of a path and
hands the last one to `stoi`, which ignores what follows the digits, and then takes 16 bits
of the value. `answersByPath_iff` says which requests are answered as their path demands.
-/

import Mathlib.Data.List.TakeWhile
import MasqueQuic.Masque.Sessions

namespace MasqueQuic

/-! ### The form of a path -/

/-- The whole text is digits, and their value is a port. -/
def Decimal (text : Text) (port : Nat) : Prop :=
  text ≠ [] ∧ (∀ c ∈ text, c.isDigit = true) ∧ digitsValue text = port ∧ port ≤ 65535

/-- `/.well-known/masque/udp/<ip>/<port>`. -/
def UdpPath (platform : Platform) (path : Text) (ip : IPAddress) (port : Nat) : Prop :=
  ∃ ipText portText, path = CONNECT_UDP_PATH ++ (ipText ++ '/' :: portText) ∧ '/' ∉ ipText ∧
    '/' ∉ portText ∧ platform.parseIP ipText = some ip ∧ Decimal portText port

theorem splitOn_not_mem {c : Char} {text : Text} : ∀ part ∈ text.splitOn c, c ∉ part := by
  induction text with
  | nil =>
    intro part hpart
    rw [List.splitOn_nil, List.mem_singleton] at hpart
    rw [hpart]
    exact List.not_mem_nil
  | cons first text ih =>
    intro part hpart
    rw [List.splitOn_cons_eq_if_modifyHead] at hpart
    split at hpart
    · rcases List.mem_cons.mp hpart with rfl | hpart
      · exact List.not_mem_nil
      · exact ih part hpart
    · next hne =>
        cases hparts : text.splitOn c with
        | nil => exact absurd hparts (List.splitOn_ne_nil c text)
        | cons head parts =>
          rw [hparts] at hpart ih
          rw [List.modifyHead_cons] at hpart
          rcases List.mem_cons.mp hpart with rfl | hpart
          · rintro hmem
            rcases List.mem_cons.mp hmem with rfl | hmem
            · exact hne (beq_self_eq_true c)
            · exact ih head List.mem_cons_self hmem
          · exact ih part (List.mem_cons_of_mem _ hpart)

theorem splitOn_pair_iff {c : Char} {text first second : Text} :
    text.splitOn c = [first, second] ↔ text = first ++ c :: second ∧ c ∉ first ∧ c ∉ second := by
  constructor
  · intro h
    have hjoin : [c].intercalate (text.splitOn c) = text := List.intercalate_splitOn c
    have hnot : ∀ part ∈ text.splitOn c, c ∉ part := splitOn_not_mem
    rw [h] at hjoin hnot
    refine ⟨?_, hnot first (by simp), hnot second (by simp)⟩
    rw [← hjoin]
    simp [List.intercalate]
  · rintro ⟨rfl, hfirst, hsecond⟩
    rw [List.splitOn_append_cons_self_of_not_mem hfirst, List.splitOn_eq_singleton hsecond]

/-- Behind the prefix stand the last two parts. -/
theorem pathArguments_prefix {rest targetIP targetPort : Text} :
    pathArguments (CONNECT_UDP_PATH ++ rest) = some (targetIP, targetPort) ↔
      rest = targetIP ++ '/' :: targetPort ∧ '/' ∉ targetIP ∧ '/' ∉ targetPort := by
  have hsplit : (CONNECT_UDP_PATH ++ rest).splitOn '/' =
      [] :: ".well-known".toList :: "masque".toList :: "udp".toList :: rest.splitOn '/' := by
    have hpath : CONNECT_UDP_PATH ++ rest = [] ++ '/' :: (".well-known".toList ++
        '/' :: ("masque".toList ++ '/' :: ("udp".toList ++ '/' :: rest))) := rfl
    rw [hpath, List.splitOn_append_cons_self_of_not_mem List.not_mem_nil,
      List.splitOn_append_cons_self_of_not_mem (by decide),
      List.splitOn_append_cons_self_of_not_mem (by decide),
      List.splitOn_append_cons_self_of_not_mem (by decide)]
  rw [← splitOn_pair_iff]
  unfold pathArguments
  rw [hsplit]
  constructor
  · intro h
    split at h
    · next heq =>
        simp only [List.cons.injEq] at heq
        obtain ⟨-, -, -, -, hrest⟩ := heq
        cases h
        exact hrest
    · cases h
  · intro h
    rw [h]

/-! ### The port -/

/-- A text of digits has no white space and no sign in front of it. -/
theorem stoi_decimal {text : Text} {port : Nat} (h : Decimal text port) :
    stoi text = .ok port ∧ toPort port = port := by
  obtain ⟨hne, hdigits, hvalue, hport⟩ := h
  obtain ⟨first, rest, rfl⟩ := List.exists_cons_of_ne_nil hne
  have hfirst := hdigits first List.mem_cons_self
  have hcode : 48 ≤ first.toNat ∧ first.toNat ≤ 57 := by
    unfold Char.isDigit at hfirst
    rw [Bool.and_eq_true, decide_eq_true_eq, decide_eq_true_eq] at hfirst
    obtain ⟨hlow, hhigh⟩ := hfirst
    exact ⟨hlow, hhigh⟩
  have hspace : isSpace first = false := by
    unfold isSpace
    rw [Bool.or_eq_false_iff, decide_eq_false_iff_not, Bool.and_eq_false_iff]
    refine ⟨?_, .inr ?_⟩
    · rintro rfl
      exact absurd hcode.1 (by decide)
    · rw [decide_eq_false_iff_not]
      omega
  have hminus : first ≠ '-' := by
    rintro rfl
    exact absurd hcode.1 (by decide)
  have hplus : first ≠ '+' := by
    rintro rfl
    exact absurd hcode.1 (by decide)
  constructor
  · unfold stoi
    rw [List.dropWhile_cons_of_neg (by rw [hspace]; exact Bool.false_ne_true)]
    dsimp only
    split
    · next heq => exact absurd (List.cons.inj heq).1 hminus
    · next heq => exact absurd (List.cons.inj heq).1 hplus
    · rw [List.takeWhile_eq_self_iff.mpr hdigits, hvalue]
      rw [if_neg (by simp), if_neg Bool.false_ne_true, if_pos (by omega)]
  · unfold toPort
    omega

/-! ### Requests -/

/-- The request is answered with 200. -/
def Accepted (s s' : Session) : Prop :=
  ∃ statusMessage headers, s'.effects = s.effects ++ [.sendHeaders 200 statusMessage headers]

/-- What the path of a CONNECT-UDP request demands of the answer. -/
structure AnswersByPath (platform : Platform) (streamID : Nat) (httpMessage : HTTPMessage)
    (storage : Nat) (s : Session) : Prop where
  accepted : ∀ s', onHeadersComplete platform streamID httpMessage storage s = .ok s' →
    Accepted s s' → ∃ ip port, UdpPath platform httpMessage.path ip port ∧
      s' = (s.insertStream streamID
        (.construct storage (.UDPProperties ⟨ip, port⟩))).replyWithSuccess
  refused : (∀ ip port, ¬ UdpPath platform httpMessage.path ip port) →
    ∃ errorMessage, onHeadersComplete platform streamID httpMessage storage s =
      .ok (s.replyWithError errorMessage)

/-- The last two parts of a path that gets as far as them are an address and a port. -/
def ReadableTarget (platform : Platform) (httpMessage : HTTPMessage) : Prop :=
  ∀ targetIP targetPort, checkRequest httpMessage = .ok .UDP →
    pathArguments httpMessage.path = some (targetIP, targetPort) →
    (∃ ip, platform.parseIP targetIP = some ip) ∧ ∃ port, Decimal targetPort port

section Requests

variable {platform : Platform} {streamID storage : Nat} {httpMessage : HTTPMessage} {s s' : Session}

theorem not_accepted_of_error {errorMessage : Text} :
    ¬ Accepted s (s.replyWithError errorMessage) := by
  rintro ⟨statusMessage, headers, heq⟩
  simp [Session.replyWithError, Session.emit] at heq

/-- What the checks leave of a CONNECT-UDP request. -/
theorem checkRequest_udp (hmethod : httpMessage.method = some .CONNECT_UDP)
    {streamType : StreamType} (h : checkRequest httpMessage = .ok streamType) :
    streamType = .UDP ∧ ∃ rest, httpMessage.path = CONNECT_UDP_PATH ++ rest := by
  unfold checkRequest at h
  rw [hmethod] at h
  cases hprotocol : httpMessage.upgradeProtocol with
  | none =>
    rw [hprotocol] at h
    cases h
  | some protocol =>
    rw [hprotocol] at h
    dsimp only at h
    split at h
    · cases h
    · rw [pure_bind] at h
      split at h
      · rw [except_bind_eq_ok] at h
        obtain ⟨_, hthrow, -⟩ := h
        cases hthrow
      · rw [if_pos rfl] at h
        split at h
        · rw [except_bind_eq_ok] at h
          obtain ⟨_, hthrow, -⟩ := h
          cases hthrow
        · next hstart =>
            rw [Bool.not_eq_true', Bool.not_eq_false, List.isPrefixOf_iff_prefix]
              at hstart
            obtain ⟨rest, hrest⟩ := hstart
            refine ⟨?_, rest, hrest.symm⟩
            split at h
            · rw [except_bind_eq_ok] at h
              obtain ⟨_, hthrow, -⟩ := h
              cases hthrow
            · cases h
              rfl

/-- The parts are those of the form. -/
theorem udpPath_iff (hstart : ∃ rest, httpMessage.path = CONNECT_UDP_PATH ++ rest) {ip : IPAddress}
    {port : Nat} : UdpPath platform httpMessage.path ip port ↔
      ∃ targetIP targetPort, pathArguments httpMessage.path = some (targetIP, targetPort) ∧
        platform.parseIP targetIP = some ip ∧ Decimal targetPort port := by
  obtain ⟨rest, hrest⟩ := hstart
  constructor
  · rintro ⟨targetIP, targetPort, hpath, hip, hport, hparse, hdecimal⟩
    refine ⟨targetIP, targetPort, ?_, hparse, hdecimal⟩
    rw [hpath]
    exact pathArguments_prefix.mpr ⟨rfl, hip, hport⟩
  · rintro ⟨targetIP, targetPort, hargs, hparse, hdecimal⟩
    rw [hrest, pathArguments_prefix] at hargs
    obtain ⟨rfl, hip, hport⟩ := hargs
    exact ⟨targetIP, targetPort, hrest, hip, hport, hparse, hdecimal⟩

/-- A CONNECT-UDP request is answered as its path demands exactly when the last two parts
of the path, if the checks get as far as them, are an address and the decimal text of a
port. -/
theorem answersByPath_iff (platform : Platform) (streamID : Nat) (httpMessage : HTTPMessage)
    (storage : Nat) (s : Session) (hmethod : httpMessage.method = some .CONNECT_UDP) :
    AnswersByPath platform streamID httpMessage storage s ↔
      ReadableTarget platform httpMessage := by
  constructor
  · intro h targetIP targetPort hcheck hargs
    have hstart := (checkRequest_udp hmethod hcheck).2
    by_contra hunreadable
    have hnone : ∀ ip port, ¬ UdpPath platform httpMessage.path ip port := by
      intro ip port hform
      obtain ⟨targetIP', targetPort', hargs', hparse, hdecimal⟩ := (udpPath_iff hstart).mp hform
      rw [hargs] at hargs'
      cases hargs'
      exact hunreadable ⟨⟨ip, hparse⟩, port, hdecimal⟩
    -- The request is not refused: a stream is created or the process stops.
    obtain ⟨errorMessage, hrun⟩ := h.refused hnone
    simp only [onHeadersComplete, hcheck, hargs, except_bind_eq_ok, createUDPStream_eq_ok] at hrun
    obtain ⟨stream, -, hrun⟩ := hrun
    have heffects := congrArg (fun r => r.map Session.effects) hrun
    simp [Session.replyWithSuccess, Session.replyWithError, Session.insertStream, Session.emit,
      Except.map, pure, Except.pure] at heffects
  · intro hreadable
    cases hcheck : checkRequest httpMessage with
    | error errorMessage =>
      have hrun : onHeadersComplete platform streamID httpMessage storage s =
          .ok (s.replyWithError errorMessage) := by
        simp [onHeadersComplete, hcheck, pure, Except.pure]
      constructor
      · intro s' hs' haccepted
        rw [hrun] at hs'
        cases hs'
        exact absurd haccepted not_accepted_of_error
      · exact fun _ => ⟨errorMessage, hrun⟩
    | ok streamType =>
      obtain ⟨rfl, hstart⟩ := checkRequest_udp hmethod hcheck
      cases hargs : pathArguments httpMessage.path with
      | none =>
        have hrun : onHeadersComplete platform streamID httpMessage storage s =
            .ok (s.replyWithError "invalid path arguments".toList) := by
          simp [onHeadersComplete, hcheck, hargs, pure, Except.pure]
        constructor
        · intro s' hs' haccepted
          rw [hrun] at hs'
          cases hs'
          exact absurd haccepted not_accepted_of_error
        · exact fun _ => ⟨_, hrun⟩
      | some args =>
        obtain ⟨targetIP, targetPort⟩ := args
        obtain ⟨⟨ip, hparse⟩, port, hdecimal⟩ := hreadable targetIP targetPort hcheck hargs
        have hform : UdpPath platform httpMessage.path ip port :=
          (udpPath_iff hstart).mpr ⟨targetIP, targetPort, hargs, hparse, hdecimal⟩
        constructor
        · intro s' hs' _
          simp only [onHeadersComplete, hcheck, hargs, except_bind_eq_ok,
            createUDPStream_eq_ok] at hs'
          obtain ⟨stream, ⟨value, ip', hvalue, hparse', -, rfl⟩, hs'⟩ := hs'
          rw [hparse] at hparse'
          rw [(stoi_decimal hdecimal).1] at hvalue
          cases hparse'
          cases hvalue
          rw [(stoi_decimal hdecimal).2] at hs'
          cases hs'
          exact ⟨ip, port, hform, rfl⟩
        · intro hnone
          exact absurd hform (hnone ip port)

end Requests

/-- A request for port 53 of `10.0.0.1`. -/
theorem answersByPath_dns :
    AnswersByPath samplePlatform 0
      (sampleRequest .CONNECT_UDP "/.well-known/masque/udp/10.0.0.1/53") 0 (.start .default) := by
  refine (answersByPath_iff samplePlatform 0 _ 0 _ rfl).mpr fun targetIP targetPort _ hargs => ?_
  have hpath : pathArguments "/.well-known/masque/udp/10.0.0.1/53".toList =
      some ("10.0.0.1".toList, "53".toList) := by decide
  rw [sampleRequest, hpath] at hargs
  cases hargs
  exact ⟨⟨_, rfl⟩, 53, by decide, List.all_eq_true.mp rfl, by decide, by decide⟩

/-- Port `70000` is taken for 4464, and what follows the digits is ignored. -/
theorem answersByPath_fails :
    onHeadersComplete samplePlatform 0
        (sampleRequest .CONNECT_UDP "/.well-known/masque/udp/10.0.0.1/70000x") 0 (.start .default) =
      .ok ((Session.start .default).insertStream 0 (.construct 0
        (.UDPProperties ⟨.v4 (.ofOctets 10 0 0 1), 4464⟩))).replyWithSuccess ∧
    ¬ AnswersByPath samplePlatform 0
      (sampleRequest .CONNECT_UDP "/.well-known/masque/udp/10.0.0.1/70000x") 0
      (.start .default) := by
  have hrun : onHeadersComplete samplePlatform 0
      (sampleRequest .CONNECT_UDP "/.well-known/masque/udp/10.0.0.1/70000x") 0
      (.start .default) = .ok ((Session.start .default).insertStream 0 (.construct 0
      (.UDPProperties ⟨.v4 (.ofOctets 10 0 0 1), 4464⟩))).replyWithSuccess := by decide
  refine ⟨hrun, fun h => ?_⟩
  obtain ⟨ip, port, ⟨ipText, portText, hpath, hip, hport, -, -, hdigits, -⟩, -⟩ :=
    h.accepted _ hrun ⟨_, _, rfl⟩
  have hargs : pathArguments "/.well-known/masque/udp/10.0.0.1/70000x".toList =
      some ("10.0.0.1".toList, "70000x".toList) := by decide
  change "/.well-known/masque/udp/10.0.0.1/70000x".toList = _ at hpath
  rw [hpath, pathArguments_prefix.mpr ⟨rfl, hip, hport⟩] at hargs
  cases hargs
  have hlast := hdigits 'x' (by decide)
  revert hlast
  decide

end MasqueQuic
