import LowLatencyBlocks.Sockets.OpenedDescriptors

/-!
# The failures that `createSocket` reports

A descriptor that `createSocket` returns is one on which every requested step
should have succeeded.  Three failures go unnoticed: `F_GETFL` returns `-1`,
which has the bit of `O_NONBLOCK`; the result of `connect` is compared with `1`;
and the time to live is set at the level of TCP, where the option has another
meaning.
-/

namespace LowLatencyBlocks

open Library

namespace SocketRequest

/-- Every requested step succeeded on the descriptor. -/
structure Ready (request : SocketRequest) (fd : Nat) (calls : List Syscall) :
    Prop where
  nonBlocking : request.isBlocking = false →
    ∃ flags, flags &&& oNonblock ≠ 0 ∧
      (.fcntlGetFlags fd (some flags) ∈ calls ∨
        .fcntlSetFlags fd flags true ∈ calls)
  noDelay : request.isBlocking = false → request.isUdp = false →
    .setsockopt fd ipprotoTcp tcpNodelay 1 true ∈ calls
  connected : request.isListening = false →
    ∃ error, .connect fd error ∈ calls ∧
      ∀ errno, error = some errno → wouldBlock errno = true
  reuseAddr : request.isListening = true →
    .setsockopt fd solSocket soReuseaddr 1 true ∈ calls
  bound : request.isListening = true → .bind fd true ∈ calls
  listens : request.isListening = true → request.isUdp = false →
    .listen fd maxTCPServerBacklog true ∈ calls
  ttl : request.isUdp = true → request.ttl ≠ 0 →
    .setsockopt fd ipprotoIp ipTtl request.ttl true ∈ calls ∨
      .setsockopt fd ipprotoIp ipMulticastTtl request.ttl true ∈ calls
  soTimestamp : request.needsSoTimestamp = true →
    .setsockopt fd solSocket soTimestamp 1 true ∈ calls

/-- A descriptor that is returned is ready. -/
def ReportsFailures (request : SocketRequest) (created : Created) : Prop :=
  ∀ fd, created.fd = some fd → request.Ready fd created.calls

/-- None of the failures that are not noticed. -/
structure NothingUnnoticed
    (request : SocketRequest) (answers : Answers) : Prop where
  getFlags : request.isBlocking = false → answers.getFlags ≠ none
  connect : request.isListening = false →
    ∀ errno, answers.connect = some errno → wouldBlock errno = true
  ttl : ¬ (request.isUdp = true ∧ request.ttl ≠ 0)

/-- If everything that the code checks succeeds for every address, no other
failure happens for the last one. -/
def LastUnnoticed
    (request : SocketRequest) (result : Option (List Answers)) : Prop :=
  ∀ earlier last, result = some (earlier ++ [last]) →
    (∀ answers ∈ earlier ++ [last], request.Succeeds answers) →
    request.NothingUnnoticed last

/-- `socket` returns a descriptor that is not open, and none is closed. -/
def FreshSockets (result : Option (List Answers)) : Prop :=
  ∀ addresses, result = some addresses →
    (addresses.filterMap Answers.socket).Nodup

section OneAddress

variable {request : SocketRequest} {fd : Nat} {answers : Answers}
  {calls : List Syscall}

/-- `F_GETFL` returned flags, and the flags have the bit or get it. -/
theorem setNonBlocking_cases
    {getFlags : Option (BitVec 32)} {setFlags : Bool}
    (returned : getFlags ≠ none)
    (passes : (setNonBlocking fd getFlags setFlags).passes = true) :
    ∃ flags, flags &&& oNonblock ≠ 0 ∧
      (.fcntlGetFlags fd (some flags) ∈
          (setNonBlocking fd getFlags setFlags).events ∨
        .fcntlSetFlags fd flags true ∈
          (setNonBlocking fd getFlags setFlags).events) := by
  obtain ⟨flags, rfl⟩ := Option.ne_none_iff_exists'.mp returned
  simp only [setNonBlocking, Option.getD_some] at passes ⊢
  by_cases already : flags &&& oNonblock ≠ 0
  · rw [if_pos already]
    exact ⟨flags, already, Or.inl List.mem_cons_self⟩
  · rw [if_neg already] at passes ⊢
    rw [not_not] at already
    refine ⟨flags ||| oNonblock, ?_, Or.inr ?_⟩
    · rw [BitVec.and_or_distrib_right, already]
      decide
    · change setFlags = true at passes
      rw [passes]
      exact List.mem_cons_of_mem _ List.mem_cons_self

/-- A requested check of a passing address. -/
theorem stage_made
    (passes :
      (Stage.runAll (request.stages fd answers)).passes = true)
    {requested : Bool} {check : Check Syscall}
    (inStages : (⟨requested, check⟩ : Stage Syscall) ∈
      request.stages fd answers)
    (isRequested : requested = true) :
    check.passes = true ∧
      ∀ call ∈ check.events,
        call ∈ (Stage.runAll (request.stages fd answers)).events := by
  constructor
  · exact Stage.runAll_passes_iff.mp passes _ inStages isRequested
  · intro call member
    exact
      Stage.mem_events_of_passes passes inStages isRequested member

/-- A requested check that is one call with this result. -/
theorem call_made
    (passes :
      (Stage.runAll (request.stages fd answers)).passes = true)
    {requested succeeds : Bool} {call : Bool → Syscall}
    (inStages : (⟨requested, succeeds, [call succeeds]⟩ : Stage Syscall) ∈
      request.stages fd answers)
    (isRequested : requested = true) :
    call true ∈ (Stage.runAll (request.stages fd answers)).events := by
  obtain ⟨succeeded, made⟩ := stage_made passes inStages isRequested
  change succeeds = true at succeeded
  rw [succeeded] at made
  exact made _ List.mem_cons_self

theorem ready_of_passes
    (passes :
      (Stage.runAll (request.stages fd answers)).passes = true)
    (nothing : request.NothingUnnoticed answers) :
    request.Ready fd
      (Stage.runAll (request.stages fd answers)).events := by
  refine ⟨?_, ?_, ?_, ?_, ?_, ?_, ?_, ?_⟩
  · intro nonBlocking
    have inStages :
        (⟨!request.isBlocking,
            setNonBlocking fd answers.getFlags answers.setFlags⟩ :
          Stage Syscall) ∈ request.stages fd answers := by
      simp [stages]
    obtain ⟨succeeded, made⟩ :=
      stage_made passes inStages (by rw [nonBlocking]; rfl)
    obtain ⟨flags, hasBit, member⟩ :=
      setNonBlocking_cases (nothing.getFlags nonBlocking) succeeded
    exact ⟨flags, hasBit, member.imp (made _) (made _)⟩
  · intro nonBlocking isTcp
    have inStages :
        (⟨!request.isBlocking && !request.isUdp, answers.noDelay,
            [.setsockopt fd ipprotoTcp tcpNodelay 1 answers.noDelay]⟩ :
          Stage Syscall) ∈ request.stages fd answers := by
      simp [stages, setNoDelay, setsockopt]
    exact
      @call_made request fd answers passes _ _
        (.setsockopt fd ipprotoTcp tcpNodelay 1) inStages
        (by rw [nonBlocking, isTcp]; rfl)
  · intro connecting
    have inStages :
        (⟨!request.isListening, connectCheck fd answers.connect⟩ :
          Stage Syscall) ∈ request.stages fd answers := by
      simp [stages]
    obtain ⟨_, made⟩ :=
      stage_made passes inStages (by rw [connecting]; rfl)
    exact
      ⟨answers.connect, made _ List.mem_cons_self,
        nothing.connect connecting⟩
  · intro listening
    have inStages :
        (⟨request.isListening, answers.reuseAddr,
            [.setsockopt fd solSocket soReuseaddr 1 answers.reuseAddr]⟩ :
          Stage Syscall) ∈ request.stages fd answers := by
      simp [stages, setsockopt]
    exact
      @call_made request fd answers passes _ _
        (.setsockopt fd solSocket soReuseaddr 1) inStages listening
  · intro listening
    have inStages :
        (⟨request.isListening, answers.bind, [.bind fd answers.bind]⟩ :
          Stage Syscall) ∈ request.stages fd answers := by
      simp [stages]
    exact
      @call_made request fd answers passes _ _ (.bind fd) inStages
        listening
  · intro listening isTcp
    have inStages :
        (⟨!request.isUdp && request.isListening, answers.listen,
            [.listen fd maxTCPServerBacklog answers.listen]⟩ :
          Stage Syscall) ∈ request.stages fd answers := by
      simp [stages]
    exact
      @call_made request fd answers passes _ _
        (.listen fd maxTCPServerBacklog) inStages
        (by rw [isTcp, listening]; rfl)
  · intro isUdp ttl
    exact absurd ⟨isUdp, ttl⟩ nothing.ttl
  · intro timestamps
    have inStages :
        (⟨request.needsSoTimestamp, answers.soTimestamp,
            [.setsockopt fd solSocket soTimestamp 1
              answers.soTimestamp]⟩ : Stage Syscall) ∈
          request.stages fd answers := by
      simp [stages, setSOTimestamp, setsockopt]
    exact
      @call_made request fd answers passes _ _
        (.setsockopt fd solSocket soTimestamp 1) inStages timestamps

/-! ## What the calls tell -/

theorem getFlags_of_mem
    {flags : BitVec 32}
    (member :
      .fcntlGetFlags fd (some flags) ∈
          (Stage.runAll (request.stages fd answers)).events ∨
        .fcntlSetFlags fd flags true ∈
          (Stage.runAll (request.stages fd answers)).events) :
    answers.getFlags ≠ none := by
  rcases member with gets | sets
  · generalize made : Syscall.fcntlGetFlags fd (some flags) = call at gets
    cases follows_of_mem_stages gets with
    | getsFlags =>
        rw [← (Syscall.fcntlGetFlags.inj made).2]
        exact Option.some_ne_none flags
    | _ =>
        cases made
  · cases follows_of_mem_stages sets with
    | setsFlags _ _ returned =>
        exact returned

theorem connect_of_mem
    {error : Option Int}
    (member :
      .connect fd error ∈
        (Stage.runAll (request.stages fd answers)).events) :
    error = answers.connect := by
  generalize made : Syscall.connect fd error = call at member
  cases follows_of_mem_stages member with
  | connects =>
      exact (Syscall.connect.inj made).2
  | _ =>
      cases made

/-- No option is set at the level of IP. -/
theorem setsockopt_notMem
    (name : Nat) (value : Int) (succeeds : Bool) :
    .setsockopt fd ipprotoIp name value succeeds ∉
      (Stage.runAll (request.stages fd answers)).events := by
  intro member
  cases follows_of_mem_stages member with
  | setsOption _ _ _ _ apart =>
      exact apart rfl

theorem nothingUnnoticed_of_ready
    (ready :
      request.Ready fd
        (Stage.runAll (request.stages fd answers)).events) :
    request.NothingUnnoticed answers := by
  refine ⟨?_, ?_, ?_⟩
  · intro nonBlocking
    obtain ⟨flags, _, member⟩ := ready.nonBlocking nonBlocking
    exact getFlags_of_mem member
  · intro connecting errno failed
    obtain ⟨error, member, harmless⟩ := ready.connected connecting
    apply harmless errno
    rw [connect_of_mem member, failed]
  · rintro ⟨isUdp, ttl⟩
    rcases ready.ttl isUdp ttl with member | member
    · exact setsockopt_notMem _ _ _ member
    · exact setsockopt_notMem _ _ _ member

end OneAddress

/-! ## The descriptor returned -/

section Returned

variable {request : SocketRequest} {fd : Nat}
  {earlier : List Answers} {last : Answers}

/-- Only the calls on the descriptor matter. -/
theorem Ready.mono
    {calls more : List Syscall}
    (contained : ∀ call, call.Sets fd → call ∈ calls → call ∈ more)
    (ready : request.Ready fd calls) : request.Ready fd more where
  nonBlocking := by
    intro nonBlocking
    obtain ⟨flags, hasBit, member⟩ := ready.nonBlocking nonBlocking
    exact
      ⟨flags, hasBit, member.imp (contained _ rfl) (contained _ rfl)⟩
  noDelay := fun nonBlocking isTcp =>
    contained _ rfl (ready.noDelay nonBlocking isTcp)
  connected := by
    intro connecting
    obtain ⟨error, member, harmless⟩ := ready.connected connecting
    exact ⟨error, contained _ rfl member, harmless⟩
  reuseAddr := fun listening =>
    contained _ rfl (ready.reuseAddr listening)
  bound := fun listening => contained _ rfl (ready.bound listening)
  listens := fun listening isTcp =>
    contained _ rfl (ready.listens listening isTcp)
  ttl := fun isUdp ttl =>
    (ready.ttl isUdp ttl).imp (contained _ rfl) (contained _ rfl)
  soTimestamp := fun timestamps =>
    contained _ rfl (ready.soTimestamp timestamps)

/-- A call on a descriptor comes from the address it was opened for. -/
theorem socket_of_sets
    {answers : Answers} {call : Syscall} (sets : call.Sets fd)
    (member : call ∈ (request.tryAddress answers).events) :
    answers.socket = some fd := by
  cases socket : answers.socket with
  | none =>
      rw [tryAddress_of_none socket] at member
      cases List.mem_singleton.mp member
      cases sets
  | some opened =>
      rw [tryAddress_of_some socket] at member
      rcases List.mem_cons.mp member with isSocket | inStages
      · cases isSocket
        cases sets
      · have setsOpened := sets_of_mem_stages inStages
        cases call with
        | socket _ | close _ | freeaddrinfo =>
            cases sets
        | fcntlGetFlags _ _ | fcntlSetFlags _ _ _
        | setsockopt _ _ _ _ _ | connect _ _ | bind _ _
        | listen _ _ _ =>
            exact congrArg some (setsOpened.symm.trans sets)

/-- When every address passes, the last one's descriptor is returned. -/
theorem createSocket_fd
    (passes :
      ∀ answers ∈ earlier ++ [last],
        (request.tryAddress answers).passes = true) :
    (request.createSocket (some (earlier ++ [last]))).fd =
      last.socket := by
  rw [createSocket_of_passes passes, List.foldl_append, List.foldl_cons,
    List.foldl_nil]

/-- The calls on the last descriptor are those behind its `socket()`. -/
theorem mem_calls_iff
    (passes :
      ∀ answers ∈ earlier ++ [last],
        (request.tryAddress answers).passes = true)
    (fresh : ((earlier ++ [last]).filterMap Answers.socket).Nodup)
    (socket : last.socket = some fd)
    {call : Syscall} (sets : call.Sets fd) :
    call ∈ (request.createSocket (some (earlier ++ [last]))).calls ↔
      call ∈ (Stage.runAll (request.stages fd last)).events := by
  have notFree : call ≠ .freeaddrinfo := by
    rintro rfl
    cases sets
  have notSocket : call ≠ .socket (some fd) := by
    rintro rfl
    cases sets
  have apart : ∀ answers ∈ earlier, answers.socket ≠ some fd := by
    intro answers member same
    rw [List.filterMap_append, List.filterMap_cons_some socket,
      List.filterMap_nil, List.nodup_append] at fresh
    exact
      fresh.2.2 fd (List.mem_filterMap.mpr ⟨answers, member, same⟩) fd
        List.mem_cons_self rfl
  have notEmpty : (earlier ++ [last]).isEmpty = false := by
    rw [List.isEmpty_eq_false_iff]
    exact List.append_ne_nil_of_right_ne_nil _ (List.cons_ne_nil _ _)
  rw [createSocket_of_passes passes, notEmpty]
  simp only [Bool.false_eq_true, if_false, List.mem_append,
    List.mem_flatMap, List.mem_singleton, notFree, or_false]
  constructor
  · rintro ⟨answers, inEarlier | rfl, member⟩
    · exact
        absurd (socket_of_sets sets member) (apart answers inEarlier)
    · rw [tryAddress_of_some socket] at member
      exact (List.mem_cons.mp member).resolve_left notSocket
  · intro member
    refine ⟨last, Or.inr rfl, ?_⟩
    rw [tryAddress_of_some socket]
    exact List.mem_cons_of_mem _ member

/-- The descriptor of the last address is ready exactly when none of its
failures is unnoticed. -/
theorem ready_iff
    (passes :
      ∀ answers ∈ earlier ++ [last],
        (request.tryAddress answers).passes = true)
    (fresh : ((earlier ++ [last]).filterMap Answers.socket).Nodup)
    (socket : last.socket = some fd) :
    request.Ready fd
        (request.createSocket (some (earlier ++ [last]))).calls ↔
      request.NothingUnnoticed last := by
  constructor
  · intro ready
    apply @nothingUnnoticed_of_ready request fd last
    apply ready.mono
    intro call sets member
    exact (mem_calls_iff passes fresh socket sets).mp member
  · intro nothing
    have lastPasses :=
      passes last (List.mem_append_right _ List.mem_cons_self)
    rw [tryAddress_of_some socket] at lastPasses
    apply (ready_of_passes lastPasses nothing).mono
    intro call sets member
    exact (mem_calls_iff passes fresh socket sets).mpr member

end Returned

/-- `createSocket` reports every failure exactly when none for the address that
it ends with goes unnoticed. -/
theorem createSocket_reports_iff
    (request : SocketRequest) (result : Option (List Answers))
    (fresh : FreshSockets result) :
    ReportsFailures request (request.createSocket result) ↔
      LastUnnoticed request result := by
  constructor
  · rintro reports earlier last rfl succeed
    have passes := passes_of_succeed succeed
    have lastSucceeds :=
      succeed last (List.mem_append_right _ List.mem_cons_self)
    obtain ⟨fd, socket⟩ :=
      Option.ne_none_iff_exists'.mp lastSucceeds.socket
    have returned := (createSocket_fd passes).trans socket
    exact
      (ready_iff passes (fresh _ rfl) socket).mp (reports fd returned)
  · intro unnoticed fd returned
    cases result with
    | none =>
        cases returned
    | some addresses =>
        by_cases succeed : ∀ answers ∈ addresses, request.Succeeds answers
        · have passes := passes_of_succeed succeed
          rcases List.eq_nil_or_concat addresses with
            rfl | ⟨earlier, last, rfl⟩
          · rw [createSocket_of_passes passes] at returned
            cases returned
          · rw [List.concat_eq_append] at *
            rw [createSocket_fd passes] at returned
            exact
              (ready_iff passes (fresh _ rfl) returned).mpr
                (unnoticed earlier last rfl succeed)
        · have fails := exists_fails_of_not_succeed succeed
          rw [createSocket_of_fails fails] at returned
          cases returned

/-- The listener's socket on the loopback interface. -/
theorem createSocket_reports_sample :
    ReportsFailures serverRequest
      (serverRequest.createSocket (some [goodAddress 3])) := by
  have fresh : FreshSockets (some [goodAddress 3]) := by
    intro addresses returned
    cases returned
    decide
  apply (createSocket_reports_iff serverRequest _ fresh).mpr
  intro earlier last returned _
  have single : earlier ++ [last] = [] ++ [goodAddress 3] :=
    (Option.some.inj returned).symm
  obtain ⟨_, sameLast⟩ := List.append_inj' single rfl
  cases sameLast
  exact ⟨by decide, by decide, by decide⟩

/-- What a client asks for. -/
def clientRequest : SocketRequest :=
  { serverRequest with isListening := false }

/-- `connect` is refused, and the descriptor is returned. -/
theorem createSocket_misses_refused_connect :
    (clientRequest.createSocket
        (some [{ goodAddress 3 with connect := some 111 }])).fd = some 3 ∧
      ¬ ReportsFailures clientRequest
        (clientRequest.createSocket
          (some [{ goodAddress 3 with connect := some 111 }])) := by
  constructor
  · decide
  · intro reports
    have passes :
        ∀ answers ∈
            ([] : List Answers) ++
              [{ goodAddress 3 with connect := some 111 }],
          (clientRequest.tryAddress answers).passes = true := by
      intro answers member
      cases List.mem_singleton.mp member
      decide
    have nothing :=
      (ready_iff passes (by decide) rfl).mp (reports 3 (by decide))
    exact absurd (nothing.connect rfl 111 rfl) (by decide)

end SocketRequest

end LowLatencyBlocks
