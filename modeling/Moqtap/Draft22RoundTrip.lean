import Moqtap.Draft22Messages

/-! The two directions of the draft-22 control message codec against each
other: what the encoder writes, the decoder reads back, exactly when the
message keeps to the parameter table and the parity rule; and what the decoder
accepts, the encoder writes again, in no more bytes and as the same message. -/
namespace Moqtap.Draft22.RoundTrip
open ByteCursor Varint CodecTypes Parameters Properties Messages

/-- Every Message Parameter is held as the table says, every Setup Option and Track
Property as its parity says. -/
def KeepsToTables (m : ControlMessage) : Prop :=
  (∀ p ∈ m.parameters, FitsTable p) ∧ ∀ p ∈ m.pairs, FitsParity p

instance (m : ControlMessage) : Decidable (KeepsToTables m) := by
  unfold KeepsToTables; infer_instance

/-- Encoding succeeds, in no more bytes than `used`. -/
def Shortens (result : Except CodecError Bytes) (used : Bytes) : Prop :=
  ∃ bytes, result = .ok bytes ∧ bytes.length ≤ used.length

/-- A decoded parameter list is fit and minimal, and can be written again. -/
def Relayable (ps : List KeyValuePair) : Prop := ∀ p ∈ ps, FitsTable p ∧ minimalParameter p = p

theorem Relayable.fits {ps : List KeyValuePair} (relayable : Relayable ps) :
    ∀ p ∈ ps, FitsTable p := fun p member => (relayable p member).1

theorem Relayable.minimal {ps : List KeyValuePair} (relayable : Relayable ps) :
    ps.map minimalParameter = ps := by
  conv_rhs => rw [← List.map_id ps]
  exact List.map_congr_left fun p member => (relayable p member).2

/-! ## Pieces the bodies share -/

theorem reads_reasonPhrase {reason bytes : Bytes} (wrote : encodeReasonPhrase reason = .ok bytes) :
    Reads decodeReasonPhrase bytes reason := by
  obtain ⟨_, short, wrote⟩ := except_bind_ok wrote
  cases wrote
  have small := short
  simp only [refuseIf_ok, maxReasonPhraseLength, decide_eq_false_iff_not, gt_iff_lt,
    Nat.not_lt] at small
  exact reads_lengthPrefixed (by omega) short

theorem parses_decodeReasonPhrase :
    Parses decodeReasonPhrase fun reason used => Shortens (encodeReasonPhrase reason) used := by
  refine parses_lengthPrefixed.imp ?_
  rintro reason used ⟨short, _, le⟩
  exact ⟨_, by simp only [encodeReasonPhrase, short, bind, Except.bind, pure, Except.pure], le⟩

theorem reads_namespace {ns : TrackNamespace} {bytes : Bytes} (wrote : encodeNamespace ns = .ok bytes) :
    Reads (TrackNamespace.decodeAllowEmptyMoqt wire) bytes ns := by
  obtain ⟨_, valid, wrote⟩ := except_bind_ok wrote
  cases wrote
  exact TrackNamespace.reads_decodeAllowEmptyMoqt valid

theorem parses_decodeNamespace :
    Parses (TrackNamespace.decodeAllowEmptyMoqt wire) fun ns used =>
      Shortens (encodeNamespace ns) used := by
  refine TrackNamespace.parses_decodeAllowEmptyMoqt.imp ?_
  rintro ns used ⟨valid, le⟩
  exact ⟨_, by simp only [encodeNamespace, valid, bind, Except.bind, pure, Except.pure], le⟩

theorem checkFullTrackName_short {ns : TrackNamespace} {trackName : Bytes}
    (checked : checkFullTrackName ns trackName = .ok ()) : trackName.length < 2 ^ 64 := by
  simp only [checkFullTrackName, refuseIf_ok, saturatingAdd, maxFullTrackNameLength,
    decide_eq_false_iff_not, gt_iff_lt, Nat.not_lt] at checked
  omega

theorem reads_fullTrackName {ns : TrackNamespace} {trackName bytes : Bytes}
    (wrote : encodeFullTrackName ns trackName = .ok bytes) :
    Reads decodeFullTrackName bytes (ns, trackName) := by
  obtain ⟨_, valid, wrote⟩ := except_bind_ok wrote
  obtain ⟨_, checked, wrote⟩ := except_bind_ok wrote
  cases wrote
  refine (TrackNamespace.reads_decodeAllowEmptyMoqt valid).bind ?_
  rw [← List.append_nil (putLengthPrefixed wire trackName)]
  refine (reads_lengthPrefixed (checkFullTrackName_short checked) rfl).bind ?_
  exact Reads.check checked (Reads.pure _)

theorem encodeFullTrackName_ok {ns : TrackNamespace} {trackName : Bytes}
    (valid : ns.validateMoqt = .ok ()) (checked : checkFullTrackName ns trackName = .ok ()) :
    encodeFullTrackName ns trackName = .ok (ns.encodeMoqt wire ++ putLengthPrefixed wire trackName) := by
  simp only [encodeFullTrackName, valid, checked, bind, Except.bind, pure, Except.pure]

theorem parses_decodeFullTrackName :
    Parses decodeFullTrackName fun name used => Shortens (encodeFullTrackName name.1 name.2) used := by
  refine TrackNamespace.parses_decodeAllowEmptyMoqt.seq fun ns front ⟨valid, le⟩ => ?_
  refine parses_lengthPrefixed.seq fun trackName back ⟨_, _, leName⟩ => ?_
  refine Parses.check fun _ checked => Parses.ret ⟨_, encodeFullTrackName_ok valid checked, ?_⟩
  simp only [List.length_append, List.length_nil]
  omega

theorem reads_redirect {r : Redirect} {bytes : Bytes} (wrote : encodeRedirect r = .ok bytes)
    (short : bytes.length ≤ maxMessageLength) : Reads decodeRedirect bytes r := by
  obtain ⟨name, wroteName, wrote⟩ := except_bind_ok wrote
  cases wrote
  simp only [putLengthPrefixed, List.length_append, maxMessageLength] at short
  refine (reads_lengthPrefixed (by omega) rfl).bind ?_
  exact (reads_fullTrackName wroteName).wrap _

theorem parses_decodeRedirect :
    Parses decodeRedirect fun r used => Shortens (encodeRedirect r) used := by
  refine parses_lengthPrefixed.seq fun uri front ⟨_, _, le⟩ => ?_
  refine parses_decodeFullTrackName.seq fun name back ⟨bytes, wrote, leName⟩ => Parses.ret ?_
  refine ⟨putLengthPrefixed wire uri ++ bytes, ?_, ?_⟩
  · simp only [encodeRedirect, wrote, bind, Except.bind, pure, Except.pure]
  · simp only [List.length_append, List.length_nil]
    omega

theorem parses_parameters :
    Parses decodeParameters fun ps used => Relayable ps ∧
      (used.length ≤ maxMessageLength → Shortens (encodeParameters ps) used) :=
  parses_decodeParameters

theorem readsAll_tail {parameters trackProperties : List KeyValuePair} {bytes : Bytes}
    (fits : ∀ p ∈ parameters, FitsTable p) (parity : ∀ p ∈ trackProperties, FitsParity p)
    (wrote : encodeTail parameters trackProperties = .ok bytes)
    (short : bytes.length ≤ maxMessageLength) :
    ReadsAll decodeTail bytes (parameters.map minimalParameter, trackProperties) := by
  obtain ⟨front, wroteParameters, wrote⟩ := except_bind_ok wrote
  obtain ⟨back, wroteProperties, wrote⟩ := except_bind_ok wrote
  cases wrote
  rw [List.length_append] at short
  refine (reads_decodeParameters fits wroteParameters (by omega)).bind_all ?_
  exact (readsAll_decodeTrackProperties parity wroteProperties).wrap_all _

theorem parses_decodeTail :
    Parses decodeTail fun tail used => Relayable tail.1 ∧ (∀ p ∈ tail.2, FitsParity p) ∧
      (used.length ≤ maxMessageLength → Shortens (encodeTail tail.1 tail.2) used) := by
  refine parses_parameters.seq fun parameters front ⟨relayable, again⟩ => ?_
  refine parses_decodeTrackProperties.seq
    fun properties back ⟨parity, bytes, wrote, le⟩ => Parses.ret ⟨relayable, parity, fun small => ?_⟩
  simp only [List.length_append, List.length_nil, Nat.add_zero] at small
  obtain ⟨list, wroteList, leList⟩ := again (by omega)
  refine ⟨list ++ bytes, ?_, ?_⟩
  · simp only [encodeTail, wroteList, wrote, bind, Except.bind, pure, Except.pure]
  · simp only [List.length_append, List.length_nil]
    omega

/-! ## Bodies, encoder to decoder -/

theorem reads_trackRequest {m : TrackRequest} {bytes : Bytes} (fits : ∀ p ∈ m.parameters, FitsTable p)
    (wrote : encodeTrackRequest m = .ok bytes) (short : bytes.length ≤ maxMessageLength) :
    Reads decodeTrackRequest bytes { m with parameters := m.parameters.map minimalParameter } := by
  obtain ⟨name, wroteName, wrote⟩ := except_bind_ok wrote
  obtain ⟨list, wroteList, wrote⟩ := except_bind_ok wrote
  cases wrote
  simp only [List.length_append] at short
  refine (reads_varint _).bind ((reads_fullTrackName wroteName).bind ?_)
  exact (reads_decodeParameters fits wroteList (by omega)).wrap _

theorem reads_namespaceRequest {m : NamespaceRequest} {bytes : Bytes}
    (fits : ∀ p ∈ m.parameters, FitsTable p) (wrote : encodeNamespaceRequest m = .ok bytes)
    (short : bytes.length ≤ maxMessageLength) :
    Reads decodeNamespaceRequest bytes { m with parameters := m.parameters.map minimalParameter } := by
  obtain ⟨ns, wroteNamespace, wrote⟩ := except_bind_ok wrote
  obtain ⟨list, wroteList, wrote⟩ := except_bind_ok wrote
  cases wrote
  simp only [List.length_append] at short
  refine (reads_varint _).bind ((reads_namespace wroteNamespace).bind ?_)
  exact (reads_decodeParameters fits wroteList (by omega)).wrap _

theorem readsAll_publish {m : Publish} {bytes : Bytes} (fits : ∀ p ∈ m.parameters, FitsTable p)
    (parity : ∀ p ∈ m.trackProperties, FitsParity p) (wrote : encodePublish m = .ok bytes)
    (short : bytes.length ≤ maxMessageLength) :
    ReadsAll decodePublish bytes { m with parameters := m.parameters.map minimalParameter } := by
  obtain ⟨name, wroteName, wrote⟩ := except_bind_ok wrote
  obtain ⟨list, wroteList, wrote⟩ := except_bind_ok wrote
  obtain ⟨properties, wroteProperties, wrote⟩ := except_bind_ok wrote
  obtain ⟨_, valid, wroteName⟩ := except_bind_ok wroteName
  obtain ⟨_, checked, wroteName⟩ := except_bind_ok wroteName
  cases wroteName
  cases wrote
  simp only [List.length_append] at short
  rw [List.append_assoc]
  refine (reads_varint _).bind_all ((TrackNamespace.reads_decodeAllowEmptyMoqt valid).bind_all ?_)
  refine (reads_lengthPrefixed (checkFullTrackName_short checked) rfl).bind_all ?_
  refine (reads_varint _).bind_all (Reads.check_all checked ?_)
  refine (reads_decodeParameters fits wroteList (by omega)).bind_all ?_
  exact (readsAll_decodeTrackProperties parity wroteProperties).wrap_all _

theorem reads_requestError {m : RequestError} {bytes : Bytes}
    (agrees : checkDiscriminators (.requestError m) = .ok ())
    (wrote : encodeRequestError m = .ok bytes) (short : bytes.length ≤ maxMessageLength) :
    Reads decodeRequestError bytes m := by
  obtain ⟨errorCode, retryInterval, reasonPhrase, redirect⟩ := m
  obtain ⟨reason, wroteReason, wrote⟩ := except_bind_ok wrote
  obtain ⟨body, wroteRedirect, wrote⟩ := except_bind_ok wrote
  cases wrote
  simp only [List.length_append] at short
  refine (reads_varint _).bind ((reads_varint _).bind ((reads_reasonPhrase wroteReason).bind ?_))
  simp only [checkDiscriminators, refuseIf_ok, bne_eq_false_iff_eq] at agrees
  cases redirect with
  | none =>
    cases wroteRedirect
    have other : ¬ errorCode.val = redirectCode := by simpa using agrees
    simp only [decodeRedirectField, other, ↓reduceIte]
    exact (Reads.pure none).wrap _
  | some r =>
    have code : errorCode.val = redirectCode := by simpa using agrees
    simp only [decodeRedirectField, code, ↓reduceIte]
    exact ((reads_redirect wroteRedirect (by omega)).map some).wrap _

/-- A body that keeps to the tables is read back whole as its minimal form. -/
theorem readsAll_decodeBody {m : ControlMessage} {bytes : Bytes} (keeps : KeepsToTables m)
    (agrees : checkDiscriminators m = .ok ()) (wrote : encodeBody m = .ok bytes)
    (short : bytes.length ≤ maxMessageLength) :
    ReadsAll (decodeBody m.messageType) bytes m.minimal := by
  obtain ⟨fits, parity⟩ := keeps
  cases m with
  | setup options => exact (readsAll_decodeSetupOptions parity wrote).wrap_all _
  | goAway uri timeout =>
    obtain ⟨_, small, wrote⟩ := except_bind_ok wrote
    cases wrote
    have bound := small
    simp only [refuseIf_ok, maxGoawayUriLength, decide_eq_false_iff_not, gt_iff_lt,
      Nat.not_lt] at bound
    exact ((reads_lengthPrefixed (by omega) small).bind ((reads_varint _).wrap _)).all
  | requestOk parameters properties => exact (readsAll_tail fits parity wrote short).wrap_all _
  | requestError m => exact ((reads_requestError agrees wrote short).wrap _).all
  | subscribe m | trackStatus m | fetch m => exact ((reads_trackRequest fits wrote short).wrap _).all
  | subscribeOk trackAlias parameters properties =>
    obtain ⟨tail, wroteTail, wrote⟩ := except_bind_ok wrote
    cases wrote
    rw [List.length_append] at short
    exact (reads_varint _).bind_all ((readsAll_tail fits parity wroteTail (by omega)).wrap_all _)
  | requestUpdate requestId parameters =>
    obtain ⟨list, wroteList, wrote⟩ := except_bind_ok wrote
    cases wrote
    rw [List.length_append] at short
    exact ((reads_varint _).bind ((reads_decodeParameters fits wroteList (by omega)).wrap _)).all
  | publish m => exact (readsAll_publish fits parity wrote short).wrap_all _
  | publishStateNotify parameters => exact ((reads_decodeParameters fits wrote short).wrap _).all
  | publishDone m =>
    obtain ⟨reason, wroteReason, wrote⟩ := except_bind_ok wrote
    cases wrote
    have whole : Reads decodePublishDone _ m :=
      (reads_varint _).bind ((reads_varint _).bind ((reads_reasonPhrase wroteReason).wrap _))
    exact (whole.wrap _).all
  | publishNamespace m | subscribeNamespace m | subscribeTracks m =>
    exact ((reads_namespaceRequest fits wrote short).wrap _).all
  | «namespace» ns | namespaceDone ns => exact ((reads_namespace wrote).wrap _).all
  | fetchOk m =>
    obtain ⟨tail, wroteTail, wrote⟩ := except_bind_ok wrote
    cases wrote
    simp only [List.length_append] at short
    have whole : ReadsAll decodeFetchOk _
        { m with parameters := m.parameters.map minimalParameter } :=
      (reads_takeByte _ _).bind_all ((reads_varint _).bind_all ((reads_varint _).bind_all
        ((readsAll_tail fits parity wroteTail (by omega)).wrap_all _)))
    exact whole.wrap_all _
  | publishSkipped ns trackName => exact ((reads_fullTrackName wrote).wrap _).all

/-! ## Bodies, decoder to encoder -/

theorem parses_decodeTrackRequest :
    Parses decodeTrackRequest fun m used => Relayable m.parameters ∧
      (used.length ≤ maxMessageLength → Shortens (encodeTrackRequest m) used) := by
  refine canonical_varint.seq fun requestId front ⟨_, _, le⟩ => ?_
  refine parses_decodeFullTrackName.seq fun name middle ⟨bytes, wrote, leName⟩ => ?_
  refine parses_parameters.seq fun ps back ⟨relayable, again⟩ => Parses.ret ⟨relayable, fun small => ?_⟩
  simp only [List.length_append, List.length_nil, Nat.add_zero] at small
  obtain ⟨list, wroteList, leList⟩ := again (by omega)
  refine ⟨requestId.encodeMoqt wire ++ (bytes ++ list), ?_, ?_⟩
  · simp only [encodeTrackRequest, wrote, wroteList, bind, Except.bind, pure, Except.pure]
  · simp only [List.length_append, List.length_nil]
    omega

theorem parses_decodeNamespaceRequest :
    Parses decodeNamespaceRequest fun m used => Relayable m.parameters ∧
      (used.length ≤ maxMessageLength → Shortens (encodeNamespaceRequest m) used) := by
  refine canonical_varint.seq fun requestId front ⟨_, _, le⟩ => ?_
  refine parses_decodeNamespace.seq fun ns middle ⟨bytes, wrote, leNamespace⟩ => ?_
  refine parses_parameters.seq fun ps back ⟨relayable, again⟩ => Parses.ret ⟨relayable, fun small => ?_⟩
  simp only [List.length_append, List.length_nil, Nat.add_zero] at small
  obtain ⟨list, wroteList, leList⟩ := again (by omega)
  refine ⟨requestId.encodeMoqt wire ++ (bytes ++ list), ?_, ?_⟩
  · simp only [encodeNamespaceRequest, wrote, wroteList, bind, Except.bind, pure, Except.pure]
  · simp only [List.length_append, List.length_nil]
    omega

theorem parses_decodePublish :
    Parses decodePublish fun m used => Relayable m.parameters ∧
      (∀ p ∈ m.trackProperties, FitsParity p) ∧
      (used.length ≤ maxMessageLength → Shortens (encodePublish m) used) := by
  refine canonical_varint.seq fun requestId front ⟨_, _, le⟩ => ?_
  refine TrackNamespace.parses_decodeAllowEmptyMoqt.seq fun ns nsBytes ⟨valid, leNamespace⟩ => ?_
  refine parses_lengthPrefixed.seq fun trackName nameBytes ⟨_, _, leName⟩ => ?_
  refine canonical_varint.seq fun trackAlias aliasBytes ⟨_, _, leAlias⟩ => ?_
  refine Parses.check fun _ checked => ?_
  refine parses_parameters.seq fun ps middle ⟨relayable, again⟩ => ?_
  refine parses_decodeTrackProperties.seq fun properties back ⟨parity, bytes, wrote, leProperties⟩ =>
    Parses.ret ⟨relayable, parity, fun small => ?_⟩
  simp only [List.length_append, List.length_nil, Nat.add_zero] at small
  obtain ⟨list, wroteList, leList⟩ := again (by omega)
  refine ⟨requestId.encodeMoqt wire ++ ((ns.encodeMoqt wire ++ putLengthPrefixed wire trackName) ++
    (trackAlias.encodeMoqt wire ++ (list ++ bytes))), ?_, ?_⟩
  · simp only [encodePublish, encodeFullTrackName_ok valid checked, wroteList, wrote, bind,
      Except.bind, pure, Except.pure]
  · simp only [List.length_append, List.length_nil]
    omega

theorem parses_decodeRedirectField (errorCode : VarInt) :
    Parses (decodeRedirectField errorCode) fun redirect used =>
      (decide (errorCode.val = redirectCode) = redirect.isSome) ∧
        Shortens (encodeRedirectField redirect) used := by
  unfold decodeRedirectField
  split
  · rename_i code
    rw [map_eq_bind]
    refine parses_decodeRedirect.seq fun r front shortens => Parses.ret ?_
    rw [List.append_nil]
    exact ⟨by simp [code], shortens⟩
  · rename_i other
    exact Parses.ret ⟨by simp [other], [], rfl, le_rfl⟩

theorem parses_decodeRequestError :
    Parses decodeRequestError fun m used =>
      checkDiscriminators (.requestError m) = .ok () ∧ Shortens (encodeRequestError m) used := by
  refine canonical_varint.seq fun errorCode front ⟨_, _, le⟩ => ?_
  refine canonical_varint.seq fun retryInterval middle ⟨_, _, leRetry⟩ => ?_
  refine parses_decodeReasonPhrase.seq fun reason back ⟨bytes, wrote, leReason⟩ => ?_
  refine (parses_decodeRedirectField errorCode).seq
    fun redirect tail ⟨agrees, redirectBytes, wroteRedirect, leRedirect⟩ => Parses.ret ⟨?_, ?_⟩
  · simp only [checkDiscriminators, refuseIf_ok, bne_eq_false_iff_eq, ← agrees]
    rfl
  · refine ⟨errorCode.encodeMoqt wire ++ (retryInterval.encodeMoqt wire ++ (bytes ++ redirectBytes)),
      ?_, ?_⟩
    · simp only [encodeRequestError, wrote, wroteRedirect, bind, Except.bind, pure, Except.pure]
    · simp only [List.length_append, List.length_nil]
      omega

theorem parses_decodeFetchOk :
    Parses decodeFetchOk fun m used => Relayable m.parameters ∧
      (∀ p ∈ m.trackProperties, FitsParity p) ∧
      (used.length ≤ maxMessageLength → Shortens (encodeFetchOk m) used) := by
  refine (parses_takeByte _).seq fun endOfTrack front same => ?_
  refine canonical_varint.seq fun endGroup group ⟨_, _, leGroup⟩ => ?_
  refine canonical_varint.seq fun endObject object ⟨_, _, leObject⟩ => ?_
  refine parses_decodeTail.seq
    fun tail back ⟨relayable, parity, again⟩ => Parses.ret ⟨relayable, parity, fun small => ?_⟩
  simp only [List.length_append, List.length_nil, Nat.add_zero] at small
  obtain ⟨bytes, wrote, le⟩ := again (by omega)
  refine ⟨[endOfTrack] ++ (endGroup.encodeMoqt wire ++ (endObject.encodeMoqt wire ++ bytes)), ?_, ?_⟩
  · simp only [encodeFetchOk, wrote, bind, Except.bind, pure, Except.pure]
  · simp only [same, List.length_append, List.length_cons, List.length_nil]
    omega

/-- What the decoder's success on a body says of the message. -/
def Accepted (msgType : MessageType) (m : ControlMessage) (used : Bytes) : Prop :=
  m.messageType = msgType ∧ KeepsToTables m ∧ m.minimal = m ∧ checkDiscriminators m = .ok () ∧
    (used.length ≤ maxMessageLength → (∀ options, m = .setup options → RepeatsOnlyToken options) →
      Shortens (encodeBody m) used)

theorem parses_decodeBody (msgType : MessageType) :
    Parses (decodeBody msgType) (Accepted msgType) := by
  cases msgType with
  | setup =>
    refine parses_decodeSetupOptions.seq fun options front ⟨parity, again⟩ => Parses.ret ?_
    rw [List.append_nil]
    exact ⟨rfl, ⟨by simp [ControlMessage.parameters], parity⟩, rfl, rfl,
      fun _ unrepeated => again (unrepeated options rfl)⟩
  | goAway =>
    refine parses_lengthPrefixed.seq fun uri front ⟨small, _, le⟩ => ?_
    refine canonical_varint.seq fun timeout back ⟨_, _, leTimeout⟩ => Parses.ret ?_
    refine ⟨rfl, ⟨by simp [ControlMessage.parameters], by simp [ControlMessage.pairs]⟩, rfl, rfl,
      fun _ _ => ⟨putLengthPrefixed wire uri ++ timeout.encodeMoqt wire, ?_, ?_⟩⟩
    · simp only [encodeBody, encodeGoAway, small, bind, Except.bind, pure, Except.pure]
    · simp only [List.length_append, List.length_nil]
      omega
  | requestOk =>
    refine parses_decodeTail.seq fun tail front ⟨relayable, parity, again⟩ => Parses.ret ?_
    rw [List.append_nil]
    refine ⟨rfl, ⟨relayable.fits, parity⟩, ?_, rfl, fun small _ => again small⟩
    simp only [ControlMessage.minimal, relayable.minimal]
  | requestError =>
    refine parses_decodeRequestError.seq fun m front ⟨agrees, shortens⟩ => Parses.ret ?_
    rw [List.append_nil]
    exact ⟨rfl, ⟨by simp [ControlMessage.parameters], by simp [ControlMessage.pairs]⟩, rfl, agrees,
      fun _ _ => shortens⟩
  | subscribe | trackStatus | fetch =>
    refine parses_decodeTrackRequest.seq fun m front ⟨relayable, again⟩ => Parses.ret ?_
    rw [List.append_nil]
    refine ⟨rfl, ⟨relayable.fits, by simp [ControlMessage.pairs]⟩, ?_, rfl, fun small _ => again small⟩
    simp only [ControlMessage.minimal, relayable.minimal]
  | subscribeOk =>
    refine canonical_varint.seq fun trackAlias front ⟨_, _, le⟩ => ?_
    refine parses_decodeTail.seq fun tail back ⟨relayable, parity, again⟩ => Parses.ret ?_
    refine ⟨rfl, ⟨relayable.fits, parity⟩, ?_, rfl, fun small _ => ?_⟩
    · simp only [ControlMessage.minimal, relayable.minimal]
    simp only [List.length_append, List.length_nil, Nat.add_zero] at small
    obtain ⟨bytes, wrote, leTail⟩ := again (by omega)
    refine ⟨trackAlias.encodeMoqt wire ++ bytes, ?_, ?_⟩
    · simp only [encodeBody, wrote, bind, Except.bind, pure, Except.pure]
    · simp only [List.length_append, List.length_nil]
      omega
  | requestUpdate =>
    refine canonical_varint.seq fun requestId front ⟨_, _, le⟩ => ?_
    refine parses_parameters.seq fun ps back ⟨relayable, again⟩ => Parses.ret ?_
    refine ⟨rfl, ⟨relayable.fits, by simp [ControlMessage.pairs]⟩, ?_, rfl, fun small _ => ?_⟩
    · simp only [ControlMessage.minimal, relayable.minimal]
    simp only [List.length_append, List.length_nil, Nat.add_zero] at small
    obtain ⟨bytes, wrote, leTail⟩ := again (by omega)
    refine ⟨requestId.encodeMoqt wire ++ bytes, ?_, ?_⟩
    · simp only [encodeBody, wrote, bind, Except.bind, pure, Except.pure]
    · simp only [List.length_append, List.length_nil]
      omega
  | publish =>
    refine parses_decodePublish.seq fun m front ⟨relayable, parity, again⟩ => Parses.ret ?_
    rw [List.append_nil]
    refine ⟨rfl, ⟨relayable.fits, parity⟩, ?_, rfl, fun small _ => again small⟩
    simp only [ControlMessage.minimal, relayable.minimal]
  | publishStateNotify =>
    refine parses_parameters.seq fun ps front ⟨relayable, again⟩ => Parses.ret ?_
    rw [List.append_nil]
    refine ⟨rfl, ⟨relayable.fits, by simp [ControlMessage.pairs]⟩, ?_, rfl, fun small _ => again small⟩
    simp only [ControlMessage.minimal, relayable.minimal]
  | publishDone =>
    refine Parses.seq (P := fun m used => Shortens (encodePublishDone m) used) ?_
      fun m front shortens => Parses.ret ?_
    · refine canonical_varint.seq fun statusCode front ⟨_, _, le⟩ => ?_
      refine canonical_varint.seq fun streamCount middle ⟨_, _, leCount⟩ => ?_
      refine parses_decodeReasonPhrase.seq fun reason back ⟨bytes, wrote, leReason⟩ => Parses.ret ?_
      refine ⟨statusCode.encodeMoqt wire ++ (streamCount.encodeMoqt wire ++ bytes), ?_, ?_⟩
      · simp only [encodePublishDone, wrote, bind, Except.bind, pure, Except.pure]
      · simp only [List.length_append, List.length_nil]
        omega
    · rw [List.append_nil]
      exact ⟨rfl, ⟨by simp [ControlMessage.parameters], by simp [ControlMessage.pairs]⟩, rfl, rfl,
        fun _ _ => shortens⟩
  | publishNamespace | subscribeNamespace | subscribeTracks =>
    refine parses_decodeNamespaceRequest.seq fun m front ⟨relayable, again⟩ => Parses.ret ?_
    rw [List.append_nil]
    refine ⟨rfl, ⟨relayable.fits, by simp [ControlMessage.pairs]⟩, ?_, rfl, fun small _ => again small⟩
    simp only [ControlMessage.minimal, relayable.minimal]
  | «namespace» | namespaceDone =>
    refine parses_decodeNamespace.seq fun ns front shortens => Parses.ret ?_
    rw [List.append_nil]
    exact ⟨rfl, ⟨by simp [ControlMessage.parameters], by simp [ControlMessage.pairs]⟩, rfl, rfl,
      fun _ _ => shortens⟩
  | fetchOk =>
    refine parses_decodeFetchOk.seq fun m front ⟨relayable, parity, again⟩ => Parses.ret ?_
    rw [List.append_nil]
    refine ⟨rfl, ⟨relayable.fits, parity⟩, ?_, rfl, fun small _ => again small⟩
    simp only [ControlMessage.minimal, relayable.minimal]
  | publishSkipped =>
    refine parses_decodeFullTrackName.seq fun name front shortens => Parses.ret ?_
    rw [List.append_nil]
    exact ⟨rfl, ⟨by simp [ControlMessage.parameters], by simp [ControlMessage.pairs]⟩, rfl, rfl,
      fun _ _ => shortens⟩

/-! ## Frames -/

theorem reads_getU16 {v : Nat} (small : v < 65536) : Reads getU16 (putU16 v) v := by
  have reads := (reads_takeBytes CodecError.unexpectedEnd (putU16 v)).wrap
    fun bytes : Bytes => bytes.foldl (fun v byte => v * 256 + byte.toNat) 0
  have value : (putU16 v).foldl (fun v byte => v * 256 + byte.toNat) 0 = v := by
    simp only [putU16, List.foldl_cons, List.foldl_nil, UInt8.toNat_ofNat', Nat.shiftRight_eq_div_pow]
    omega
  rwa [value] at reads

theorem parses_getU16 : Parses getU16 fun v used => v < 65536 ∧ used.length = 2 := by
  refine (parses_takeBytes _ 2).seq fun bytes front ⟨same, length⟩ => Parses.ret ?_
  subst same
  rw [List.append_nil]
  refine ⟨?_, length⟩
  obtain ⟨high, low, rfl⟩ := List.length_eq_two.mp length
  have highBound := high.toNat_lt
  have lowBound := low.toNat_lt
  simp only [List.foldl_cons, List.foldl_nil]
  omega

theorem decodeFramed_ok {msgType : MessageType} {bodyLen : Nat} {body : Bytes} {m : ControlMessage} :
    decodeFramed msgType bodyLen body = .ok m ↔
      ReadsAll (decodeBody msgType) body m ∧ checkParameterScope m = .ok () := by
  unfold decodeFramed ReadsAll
  cases outcome : decodeBody msgType (.of body) with
  | error e => cases short : e.isIncomplete <;> simp [short]
  | ok pair =>
    obtain ⟨m', rest⟩ := pair
    constructor
    · intro ran
      obtain ⟨_, inScope, ran⟩ := except_bind_ok ran
      obtain ⟨_, empty, ran⟩ := except_bind_ok ran
      cases ran
      obtain ⟨real, pad⟩ := rest
      simp only [refuseIf_ok, bne_eq_false_iff_eq, Cursor.remaining, Nat.add_eq_zero_iff,
        List.length_eq_zero_iff] at empty
      obtain ⟨rfl, rfl⟩ := empty
      exact ⟨rfl, inScope⟩
    · rintro ⟨same, inScope⟩
      simp only [Except.ok.injEq, Prod.mk.injEq] at same
      obtain ⟨rfl, rfl⟩ := same
      show (checkParameterScope m' >>= _) = _
      rw [inScope]
      rfl

theorem minimal_messageType (m : ControlMessage) : m.minimal.messageType = m.messageType := by
  cases m <;> rfl

theorem minimal_parameters (m : ControlMessage) :
    m.minimal.parameters = m.parameters.map minimalParameter := by
  cases m <;> rfl

theorem minimal_pairs (m : ControlMessage) : m.minimal.pairs = m.pairs := by
  cases m <;> rfl

theorem minimal_scope {m : ControlMessage} (inScope : checkParameterScope m = .ok ()) :
    checkParameterScope m.minimal = .ok () := by
  have each := checkAll_ok.mp inScope
  refine checkAll_ok.mpr ?_
  rw [minimal_parameters, minimal_messageType]
  refine List.forall_mem_map.mpr fun p member => ?_
  rw [minimalParameter_key]
  exact each p member

theorem minimal_keeps {m : ControlMessage} : KeepsToTables m.minimal ↔ KeepsToTables m := by
  unfold KeepsToTables
  rw [minimal_parameters, minimal_pairs, List.forall_mem_map]
  simp only [minimalParameter_fits]

/-- A message that keeps to the tables is read back off its frame, minimal. -/
theorem reads_decode {m : ControlMessage} {bytes : Bytes} (keeps : KeepsToTables m)
    (wrote : encode m = .ok bytes) : Reads decode bytes m.minimal := by
  obtain ⟨_, agrees, wrote⟩ := except_bind_ok wrote
  obtain ⟨_, inScope, wrote⟩ := except_bind_ok wrote
  obtain ⟨body, wroteBody, wrote⟩ := except_bind_ok wrote
  obtain ⟨_, short, wrote⟩ := except_bind_ok wrote
  cases wrote
  simp only [refuseIf_ok, decide_eq_false_iff_not, gt_iff_lt, Nat.not_lt] at short
  have known : MessageType.fromId (VarInt.ofU64 m.messageType.id).val = some m.messageType := by
    rw [VarInt.val_ofU64 m.messageType.id_lt]
    exact MessageType.fromId_ok.mpr rfl
  refine (reads_varint _).bind (Reads.check (a := m.messageType) (by simpa using known) ?_)
  refine (reads_getU16 (by unfold maxMessageLength at short; omega)).bind ?_
  have framed : decodeFramed m.messageType body.length body = .ok m.minimal :=
    decodeFramed_ok.mpr ⟨readsAll_decodeBody keeps agrees wroteBody short, minimal_scope inScope⟩
  exact (reads_takeBytes _ body).last (reads_lift framed)

/-- What `decode` accepts keeps to the tables, is minimal, and is written again in
no more bytes unless it is a SETUP the sender's rule refuses. -/
theorem parses_decode :
    Parses decode fun m used => KeepsToTables m ∧ m.minimal = m ∧
      ((∀ options, m = .setup options → RepeatsOnlyToken options) → Shortens (encode m) used) := by
  refine canonical_varint.seq fun typeId front ⟨_, _, le⟩ => Parses.check fun msgType known => ?_
  refine parses_getU16.seq fun bodyLen middle ⟨small, two⟩ => ?_
  refine (parses_takeBytes _ bodyLen).seq fun body back ⟨same, length⟩ => ?_
  subst same
  refine (parses_lift _).imp fun m used ⟨framed, nothing⟩ => ?_
  subst nothing
  obtain ⟨all, inScope⟩ := decodeFramed_ok.mp framed
  obtain ⟨used, split, _, isType, keeps, minimal, agrees, again⟩ :=
    parses_decodeBody msgType body m _ all
  have whole : used = body := by simpa [Cursor.of] using split.symm
  subst whole
  refine ⟨keeps, minimal, fun unrepeated => ?_⟩
  have fits : used.length ≤ maxMessageLength := by unfold maxMessageLength; omega
  obtain ⟨bytes, wrote, leBody⟩ := again fits unrepeated
  rw [okOr_ok, MessageType.fromId_ok] at known
  have type : VarInt.ofU64 m.messageType.id = typeId := by rw [isType, ← known, VarInt.ofU64_val]
  have short : refuseIf (decide (bytes.length > maxMessageLength))
      (CodecError.messageTooLong bytes.length) = .ok () := by
    simp only [refuseIf_ok, decide_eq_false_iff_not, gt_iff_lt, Nat.not_lt]
    omega
  refine ⟨typeId.encodeMoqt wire ++ (putU16 bytes.length ++ bytes), ?_, ?_⟩
  · simp only [encode, agrees, inScope, wrote, short, type, bind, Except.bind, pure, Except.pure]
  · simp only [putU16, List.length_append, List.length_cons, List.length_nil]
    omega

/-! ## The two directions -/

/-- A written message comes back off its frame, in front of anything and with only
its wire-form values rewritten, exactly when it keeps to the tables. -/
theorem decode_encode_iff {m : ControlMessage} {bytes : Bytes} (wrote : encode m = .ok bytes) :
    (∀ rest : Bytes, decode (.of (bytes ++ rest)) = .ok (m.minimal, .of rest)) ↔
      KeepsToTables m := by
  constructor
  · intro readable
    obtain ⟨_, _, _, keeps, _⟩ := parses_decode _ _ _ (readable [])
    exact minimal_keeps.mp keeps
  · intro keeps rest
    exact reads_decode keeps wrote rest 0

/-- A Largest Object whose first varint takes two bytes, re-read in one. -/
def largestObject : ControlMessage :=
  .publishStateNotify [⟨⟨0x09, by decide⟩, .bytes [0x80, 3, 4]⟩]

theorem decode_encode_largestObject :
    encode largestObject = .ok [0x22, 0, 5, 1, 9, 0x80, 3, 4] ∧ ∀ rest : Bytes,
      decode (.of ([0x22, 0, 5, 1, 9, 0x80, 3, 4] ++ rest)) = .ok (largestObject.minimal, .of rest) :=
  have wrote : encode largestObject = .ok [0x22, 0, 5, 1, 9, 0x80, 3, 4] := by decide +kernel
  ⟨wrote, (decode_encode_iff wrote).mpr (by decide)⟩

/-- REQUEST_UPDATE under a parameter type the table does not know: the encoder's
fallback arm writes it and the decoder refuses it. -/
theorem encode_unreadable : ¬ ∀ m bytes, encode m = .ok bytes → ∀ rest : Bytes,
    decode (.of (bytes ++ rest)) = .ok (m.minimal, .of rest) := by
  intro readable
  have wrote : encode (.requestUpdate ⟨0, by decide⟩ [⟨⟨0x40, by decide⟩, .varint ⟨5, by decide⟩⟩]) =
      .ok [2, 0, 4, 0, 1, 0x40, 5] := by decide +kernel
  have refused : decode (.of [2, 0, 4, 0, 1, 0x40, 5]) = .error (.unknownMessageParameter 0x40) := by
    decide +kernel
  have read := readable _ _ wrote []
  rw [List.append_nil, refused] at read
  cases read

/-- What is decoded is encoded again, in no more bytes than were consumed, and
decodes to the same message. -/
theorem encode_decode {real : Bytes} {m : ControlMessage} {rest : Cursor}
    (ran : decode (.of real) = .ok (m, rest))
    (unrepeated : ∀ options, m = .setup options → RepeatsOnlyToken options) :
    ∃ used bytes, real = used ++ rest.real ∧ encode m = .ok bytes ∧ bytes.length ≤ used.length ∧
      ∀ more : Bytes, decode (.of (bytes ++ more)) = .ok (m, .of more) := by
  obtain ⟨used, split, _, keeps, minimal, again⟩ := parses_decode real m rest ran
  obtain ⟨bytes, wrote, le⟩ := again unrepeated
  refine ⟨used, bytes, split, wrote, le, fun more => ?_⟩
  have reads := reads_decode keeps wrote more 0
  rwa [minimal] at reads

/-- A SETUP that gives its token twice. -/
def tokensTwice : ControlMessage :=
  .setup [⟨⟨3, by decide⟩, .bytes [3, 7, 9]⟩, ⟨⟨3, by decide⟩, .bytes [3, 7, 9]⟩]

theorem encode_decode_tokensTwice : ∃ (used bytes : Bytes),
    [0xAF, 0, 0, 10, 3, 3, 3, 7, 9, 0, 3, 3, 7, 9, 1] = used ++ [1] ∧
      encode tokensTwice = .ok bytes ∧ bytes.length ≤ used.length ∧
      ∀ more : Bytes, decode (.of (bytes ++ more)) = .ok (tokensTwice, .of more) :=
  @encode_decode [0xAF, 0, 0, 10, 3, 3, 3, 7, 9, 0, 3, 3, 7, 9, 1] tokensTwice (.of [1])
    (by decide +kernel) fun options isSetup => by cases isSetup; decide

end Moqtap.Draft22.RoundTrip
