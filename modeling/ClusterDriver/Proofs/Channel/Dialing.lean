import ClusterDriver.Proofs.Channel.Handshake
import ClusterDriver.Proofs.Frame.Stream
import ClusterDriver.Simulation.Connections

set_option autoImplicit false

namespace ClusterDriver

theorem FrameReader.feed_travelling {frame : Frame} {bytes : ByteArray}
    (travels : frame.TravelsAs bytes) (rest : ByteArray) :
    FrameReader.start.feed (bytes ++ rest) = .done (.ok frame) rest := by
  obtain ⟨count, -, first, left⟩ := feed_reads (bytes ++ rest)
  obtain ⟨result, rfl⟩ := first.unique (.of_travelling travels rest)
  rw [ByteArray.extract_append_eq_right rfl ByteArray.size_append] at left
  -- A reader that still waits ends with an error, but here a whole frame has come.
  cases progress : start.feed (bytes ++ rest) with
  | more reader =>
    rw [progress, Progress.conclude] at result
    cases ended : reader.atEnd <;> simp [ended, Except.map] at result
  | done read rest =>
    rw [progress] at result left
    cases read with
    | error e => cases result
    | ok read =>
      cases result
      cases left
      rfl

inductive Frame.TravelAs : List Frame → ByteArray → Prop
  | nil : TravelAs [] ByteArray.empty
  | cons {frame : Frame} {frames : List Frame} {whole rest : ByteArray}
      (first : frame.TravelsAs whole) (others : TravelAs frames rest) :
      TravelAs (frame :: frames) (whole ++ rest)

theorem Frame.TravelAs.append {frames : List Frame} {bytes : ByteArray}
    (travel : TravelAs frames bytes) {frame : Frame} {whole : ByteArray}
    (travels : frame.TravelsAs whole) : TravelAs (frames ++ [frame]) (bytes ++ whole) := by
  induction travel with
  | nil =>
    rw [ByteArray.empty_append, ← ByteArray.append_empty (b := whole)]
    exact .cons travels .nil
  | cons first _ ih =>
    rw [ByteArray.append_assoc]
    exact .cons first ih

theorem Frame.exists_travels (opcode : Opcode) {body : ByteArray}
    (fits : body.size ≤ maxBodyLength) : ∃ bytes, (request 0 opcode body).TravelsAs bytes := by
  have known : protocolVersion &&& ~~~responseFlag = protocolVersion := by decide
  exact ⟨_, known, (encode_eq_ok_iff _ _).2 ⟨fits, rfl⟩⟩

namespace Simulation

namespace Network

variable {network : Network} {id : SocketId} {unread written : List Frame}

/-- A socket at which `unread` and then the end can be read. Its server, which still listens, has
`written` to read. -/
inductive Carries (network : Network) (id : SocketId) (unread written : List Frame) : Prop
  | intro (socket peer : Socket) (here : network.socket? id = some socket)
      (there : network.socket? socket.peer = some peer) (apart : socket.peer ≠ id)
      (ended : socket.ended = true) (unbroken : socket.reset = false)
      (listens : peer.closed = false) (incoming : Frame.TravelAs unread socket.received)
      (outgoing : Frame.TravelAs written peer.received)

theorem socket?_update (network : Network) (id other : SocketId) (change : Socket → Socket) :
    (network.update id change).socket? other =
      if id = other then (network.socket? other).map change else network.socket? other := by
  simp only [socket?, update, List.getElem?_modify]
  split <;> simp

theorem Carries.setReceived {frames : List Frame} {bytes : ByteArray}
    (carries : network.Carries id frames written) (travel : Frame.TravelAs unread bytes) :
    (network.update id fun socket => { socket with received := bytes }).Carries id unread
      written := by
  obtain ⟨socket, peer, here, there, apart, ended, unbroken, listens, -, outgoing⟩ := carries
  refine ⟨{ socket with received := bytes }, peer, ?_, ?_, apart, ended, unbroken, listens, travel,
    outgoing⟩
  · rw [socket?_update, if_pos rfl, here]
    rfl
  · rw [socket?_update, if_neg (Ne.symm apart), there]

theorem Carries.read_frame {frame : Frame}
    (carries : network.Carries id (frame :: unread) written) :
    ∃ after, network.read id .start = (.frame frame, after) ∧ after.Carries id unread written := by
  have ⟨socket, peer, here, _, _, _, _, _, incoming, _⟩ := carries
  generalize received : socket.received = bytes at incoming
  cases incoming with
  | @cons _ _ whole rest first others =>
    refine ⟨_, ?_, carries.setReceived others⟩
    rw [read, here]
    dsimp only
    rw [received, FrameReader.feed_travelling first]

theorem Carries.read_end (carries : network.Carries id [] written) :
    ∃ after, network.read id .start = (.ended, after) ∧ after.Carries id [] written := by
  have ⟨socket, peer, here, _, _, ended, _, _, incoming, _⟩ := carries
  generalize received : socket.received = bytes at incoming
  cases incoming
  refine ⟨_, ?_, carries.setReceived .nil⟩
  have waits : FrameReader.start.feed ByteArray.empty = .more .start := FrameReader.waits_start
  rw [read, here]
  dsimp only
  rw [received, waits, ended]
  rfl

theorem Carries.writeFault? (carries : network.Carries id unread written) :
    network.writeFault? id = none := by
  obtain ⟨socket, -, here, -, -, -, unbroken, -⟩ := carries
  rw [Network.writeFault?, here]
  dsimp only
  rw [unbroken]
  rfl

theorem Carries.write {frame : Frame} {bytes : ByteArray}
    (carries : network.Carries id unread written) (travels : frame.TravelsAs bytes) :
    (network.write id bytes).1.Carries id unread (written ++ [frame]) := by
  obtain ⟨socket, peer, here, there, apart, ended, unbroken, listens, incoming, outgoing⟩ := carries
  rw [Network.write, here]
  dsimp only
  rw [there, if_neg (by simp [listens])]
  refine ⟨socket, { peer with received := peer.received ++ bytes }, ?_, ?_, apart, ended, unbroken,
    listens, incoming, outgoing.append travels⟩
  · rw [socket?_update, if_neg apart, here]
  · rw [socket?_update, if_pos rfl, there]
    rfl

end Network

namespace World

variable {world : World} {socket : SocketId} {unread written : List Frame}

theorem network_withNetwork (world : World) (result : Network × List Process) :
    (world.withNetwork result).network = result.1 := by
  obtain ⟨network, told⟩ := result
  have kept (told : List Process) (world : World) :
      (told.foldl notice world).network = world.network := by
    induction told generalizing world with
    | nil => rfl
    | cons process told ih => exact ih (world.notice process)
  exact kept told { world with network }

theorem writeFrame_carries (world : World)
    (carries : world.network.Carries socket unread written) (opcode : Opcode)
    {body : ByteArray} (fits : body.size ≤ maxBodyLength) :
    ∃ after, world.writeFrame socket (.request 0 opcode body) = (after, true) ∧
      after.network.Carries socket unread (written ++ [.request 0 opcode body]) := by
  obtain ⟨bytes, travels⟩ := Frame.exists_travels opcode fits
  refine ⟨world.withNetwork (world.network.write socket bytes), ?_, ?_⟩
  · rw [writeFrame, carries.writeFault?, travels.2]
  · rw [network_withNetwork]
    exact carries.write travels

theorem shakeHands_exchange (attempt : Connecting) {frames : List Frame} {limit : Nat}
    (few : frames.length < limit) (earlier : List AuthPrompt)
    (carries : world.network.Carries socket frames written) :
    ∃ after, after.network.Carries socket
        (Handshake.exchange attempt.authenticator earlier frames).unread
        (written ++ (Handshake.exchange attempt.authenticator earlier frames).written) ∧
      shakeHands limit world attempt socket .start earlier =
        match (Handshake.exchange attempt.authenticator earlier frames).result with
        | .ok token => (.established socket token, after)
        | .error cause => (.failed cause, after.closeSocket socket) := by
  induction frames generalizing world limit earlier written with
  | nil =>
    obtain ⟨limit, rfl⟩ := Nat.exists_eq_add_one.2 few
    obtain ⟨network, reads, carries⟩ := carries.read_end
    refine ⟨{ world with network }, ?_, ?_⟩
    · rwa [Handshake.exchange, List.append_nil]
    · rw [shakeHands, reads]
      rfl
  | cons frame frames ih =>
    obtain ⟨limit, rfl⟩ := Nat.exists_eq_add_one.2 (Nat.lt_of_le_of_lt (Nat.zero_le _) few)
    obtain ⟨network, reads, carries⟩ := carries.read_frame
    have explains := Handshake.onFrame_explains attempt.authenticator earlier frame
    rw [shakeHands, reads, Handshake.exchange]
    dsimp only
    generalize Handshake.onFrame attempt.authenticator earlier frame = step at explains
    cases step with
    | done token => exact ⟨{ world with network }, by rwa [List.append_nil], rfl⟩
    | failed cause => exact ⟨{ world with network }, by rwa [List.append_nil], rfl⟩
    | answer reply prompt =>
      -- An answer fits into a frame, so it can be written.
      obtain ⟨-, -, -, fits⟩ | _ := explains
      obtain ⟨after, writes, carries⟩ :=
        writeFrame_carries { world with network } carries .authResponse fits
      obtain ⟨last, carries, goes⟩ := ih (Nat.lt_of_succ_lt_succ few) (prompt :: earlier) carries
      rw [List.append_assoc] at carries
      refine ⟨last, carries, ?_⟩
      dsimp only
      rw [Handshake.response, writes]
      exact goes

theorem continueConnecting_runs (attempt : Connecting) {frames : List Frame}
    (connected : attempt.stage = .dialing (some socket)) (few : frames.length < frameLimit)
    (carries : world.network.Carries socket frames []) :
    ∃ after, after.network.Carries socket (Handshake.run attempt.authenticator frames).unread
        (Handshake.run attempt.authenticator frames).written ∧
      world.continueConnecting attempt =
        match (Handshake.run attempt.authenticator frames).result with
        | .ok token => (.established socket token, after)
        | .error cause => (.failed cause, after.closeSocket socket) := by
  have empty : ByteArray.empty.size ≤ maxBodyLength := Nat.zero_le _
  obtain ⟨begun, writes, carries⟩ := writeFrame_carries world carries .startup empty
  obtain ⟨after, carries, goes⟩ := shakeHands_exchange attempt few [] carries
  refine ⟨after, carries, ?_⟩
  rw [continueConnecting, connected]
  dsimp only
  rw [Handshake.startup, writes]
  exact goes

end World

end Simulation

end ClusterDriver
