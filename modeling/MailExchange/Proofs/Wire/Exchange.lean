import MailExchange.Proofs.Text.Split
import MailExchange.Proofs.Wire.Frame
import MailExchange.Proofs.Wire.Session
import MailExchange.Wire.Channel

namespace MailExchange.Wire

open Text (Bytes)

theorem splitCommand_word {word : String} (free : ' ' ∉ word.toList) (rest : String) :
    splitCommand (word ++ " " ++ rest) = (word, some rest) :=
  Text.cut_word free rest

theorem splitCommand_text {line word text : String}
    (cut : splitCommand line = (word, some text)) :
    line.toList = word.toList ++ ' ' :: text.toList := Text.splitAtFirst_text cut

theorem splitCommand_ok (text : String) : splitCommand ("ok " ++ text) = ("ok", some text) := by
  rw [show "ok " = "ok" ++ " " from rfl]
  exact splitCommand_word (by decide) text

theorem splitCommand_error (text : String) :
    splitCommand ("error " ++ text) = ("error", some text) := by
  rw [show "error " = "error" ++ " " from rfl]
  exact splitCommand_word (by decide) text

theorem expectOk_error (text : String) : expectOk ("error " ++ text) = .error (.remote text) := by
  rw [expectOk, splitCommand_error]
  rfl

theorem expectOk_bare {reply : String} (bare : expectOk reply = .ok none) : reply = "ok" := by
  rcases Text.splitAtFirst_cases ' ' reply with ⟨_, plain⟩ | ⟨head, rest, _, _, cut⟩
  · simp only [expectOk, splitCommand, plain] at bare
    split at bare
    · rename_i same
      exact congrArg Prod.fst same
    · cases bare
    · cases bare
  · simp only [expectOk, splitCommand, cut] at bare
    split at bare
    · rename_i same
      cases same
      cases bare
    · cases bare
    · cases bare

namespace Talk

variable {π α β : Type} {talk : Talk π α} {next : α → Talk π β} {channel after : Channel π}

theorem run_bind (talk : Talk π α) (next : α → Talk π β) (channel : Channel π) :
    (talk >>= next).run channel =
      ExceptT.bindCont next (talk.run channel).1 (talk.run channel).2 := rfl

theorem run_ok {value : α} (first : talk.run channel = (.ok value, after)) :
    (talk >>= next).run channel = (next value).run after := by
  rw [run_bind, first]
  rfl

end Talk

variable {σ : Type} [Session σ]

/-- A client's channel between two requests, with the lines it sent and the session they led to. -/
structure Quiet (start : σ) (lines : List String) (channel : Channel (Live σ)) (session : σ) :
    Prop where
  clear : channel.endpoint.cipher = none
  unread : channel.unread = []
  peer : channel.peer = ⟨session, [], (Session.sent session).length⟩
  sent : channel.endpoint.sent = lines
  fed : Session.feed start (lines.flatMap lineBytes) = (session, [])

variable {start session : σ} {lines : List String} {channel : Channel (Live σ)}

theorem Quiet.send (quiet : Quiet start lines channel session)
    (running : Session.isOver session = false) {line reply : String} {next : σ} (fits : Fits line)
    (taken : Session.take session (some (.line (Text.utf8 line))) = next)
    (said : Session.sent next = Session.sent session ++ [reply]) :
    channel.send line = (.ok (), ⟨channel.endpoint.say line, lineBytes reply,
      ⟨next, [], (Session.sent next).length⟩⟩) := by
  have fed := Session.feed_line running fits
  rw [taken] at fed
  simp only [Channel.send, Endpoint.encode_clear quiet.clear fits.one_line, quiet.unread,
    quiet.peer, Peer.hear, Live.feed, Live.answer, Live.collect, List.nil_append, fed, said,
    List.drop_left, List.flatMap_cons, List.flatMap_nil, List.append_nil]

theorem Quiet.request (quiet : Quiet start lines channel session)
    (running : Session.isOver session = false) {line reply : String} {next : σ} (fits : Fits line)
    (reply_fits : Fits reply)
    (taken : Session.take session (some (.line (Text.utf8 line))) = next)
    (said : Session.sent next = Session.sent session ++ [reply]) :
    ∃ after, (Talk.request line).run channel = (.ok (chomp reply), after) ∧
      Quiet start (lines ++ [line]) after next := by
  have sent := quiet.send running fits taken said
  have cut := takeFrame_fits reply_fits []
  rw [List.append_nil] at cut
  have heard : (channel.endpoint.say line).decode (some (.line (Text.utf8 reply))) = _ :=
    (channel.endpoint.say line).decode_line quiet.clear reply
  refine ⟨⟨(channel.endpoint.say line).hear (chomp reply), [],
    ⟨next, [], (Session.sent next).length⟩⟩, ?_, ?_⟩
  · have written : (Talk.writeLine line).run channel = (.ok (), _) := sent
    rw [Talk.request, Talk.run_ok written]
    change Channel.receive _ = _
    simp only [Channel.receive, cut, heard]
  · refine ⟨quiet.clear, rfl, rfl, congrArg (· ++ [line]) quiet.sent, ?_⟩
    calc Session.feed start ((lines ++ [line]).flatMap lineBytes)
      _ = Session.feed start (lines.flatMap lineBytes ++ lineBytes line) := by
          rw [List.flatMap_append, List.flatMap_singleton]
      _ = Session.feed session (lineBytes line) := by
          rw [Session.feed_append, quiet.fed, List.nil_append]
      _ = (next, []) := by rw [Session.feed_line running fits, taken]

theorem Quiet.ran (quiet : Quiet start lines channel session)
    (finished : Session.isOver session = true) :
    Session.run start (lines.flatMap lineBytes) = session := by
  simp only [Session.run, quiet.fed, finished, if_true]

theorem read_greeting (label : LogPrefix) (session : σ) {greeting : String} (fits : Fits greeting)
    (said : Session.sent session = [greeting]) :
    ∃ after, Talk.readLine.run (Live.connect label session) = (.ok (chomp greeting), after) ∧
      Quiet session [] after session := by
  have cut := takeFrame_fits fits []
  rw [List.append_nil] at cut
  have heard : ({ label } : Endpoint).decode (some (.line (Text.utf8 greeting))) = _ :=
    Endpoint.decode_line { label } rfl greeting
  refine ⟨⟨({ label } : Endpoint).hear (chomp greeting), [],
    ⟨session, [], (Session.sent session).length⟩⟩, ?_, rfl, rfl, rfl, rfl, ?_⟩
  · change Channel.receive _ = _
    simp only [Live.connect, Live.answer, Live.collect, said, List.drop_zero, List.flatMap_cons,
      List.flatMap_nil, List.append_nil, Channel.receive, cut, heard]
  · exact Session.feed_pending session takeFrame_nil

end MailExchange.Wire
