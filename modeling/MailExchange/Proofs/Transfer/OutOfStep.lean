import MailExchange.Proofs.Transfer.Unsendable

/-!
A client reads an answer that is too long in two parts, and takes the second for the answer to its
next command. From then on it is out of step with the server, and can be brought to take old answers
for those to a mail that the server has not even read.
-/

namespace MailExchange.Transfer

open Text (Bytes)
open Wire (Channel Endpoint Fits Live Peer Talk chomp lineBytes)

section Receiving

variable {π : Type} [Peer π] {channel : Channel π} {reply start tail : String} {rest : Bytes}

theorem receive_fits (clear : channel.endpoint.cipher = none) (fits : Fits reply)
    (unread : channel.unread = lineBytes reply ++ rest) :
    channel.receive =
      (.ok (chomp reply), ⟨channel.endpoint.hear (chomp reply), rest, channel.peer⟩) := by
  simp only [Channel.receive, unread, Wire.takeFrame_fits fits, channel.endpoint.decode_line clear]

theorem receive_start (free : '\n' ∉ start.toList)
    (full : (Text.utf8 start).length = Wire.maxLine)
    (unread : channel.unread = lineBytes (start ++ tail) ++ rest) :
    channel.receive = (.error .lineTooLong, { channel with unread := lineBytes tail ++ rest }) := by
  have cut : Wire.takeFrame? channel.unread = some (.overlong, lineBytes tail ++ rest) := by
    rw [unread, lineBytes, Text.utf8_append, List.append_assoc, List.append_assoc,
      ← List.append_assoc (Text.utf8 tail)]
    exact Wire.takeFrame_overlong (Wire.lineFeed_free free) full _
  simp only [Channel.receive, cut, Wire.Endpoint.decode]

end Receiving

def tagged : Mail := ⟨"zim@irk.planet", ["gaz@earth.planet"], "doom", "soon", some "AAAA"⟩

/-- To no one, for want of a domain. -/
def lost (name : String) : Mail := { tagged with recipients := [name ++ "ok"] }

def complaint (name : String) : String := "error invalid recipient " ++ (name ++ "ok")

theorem complaint_start (name : String) :
    complaint name = "error invalid recipient " ++ name ++ "ok" := String.append_assoc.symm

/-- A name so long that the complaint about an address which begins with it breaks where it ends. -/
structure Breaking (name : String) : Prop where
  plain : ∀ c ∈ name.toList, Address.isPlain c = true
  size : (Text.utf8 name).length = 65512

theorem filler_breaking : Breaking (Text.filler 65512) := by
  refine ⟨fun c member => ?_, Text.utf8_filler 65512⟩
  rw [Text.mem_filler member]
  decide

namespace Breaking

variable {name : String}

theorem name_free (breaking : Breaking name) {c : Char} (special : Address.isPlain c = false) :
    c ∉ name.toList := by
  intro member
  rw [breaking.plain c member] at special
  cases special

theorem address_free (breaking : Breaking name) {c : Char} (special : Address.isPlain c = false) :
    c ∉ (name ++ "ok").toList := by
  rw [Text.append_free]
  refine ⟨breaking.name_free special, fun member => ?_⟩
  have plain : "ok".toList.all Address.isPlain = true := by decide
  rw [List.all_eq_true.mp plain c member] at special
  cases special

theorem start_free (breaking : Breaking name) :
    '\n' ∉ ("error invalid recipient " ++ name).toList := by
  rw [Text.append_free]
  exact ⟨by decide, breaking.name_free (by decide)⟩

theorem start_full (breaking : Breaking name) :
    (Text.utf8 ("error invalid recipient " ++ name)).length = Wire.maxLine := by
  have words : (Text.utf8 "error invalid recipient ").length = 24 := by decide
  rw [Text.utf8_append, List.length_append, words, breaking.size]
  rfl

theorem invalid (breaking : Breaking name) : ¬ Address.isValid (name ++ "ok") = true := by
  intro valid
  obtain ⟨parsed, found⟩ := Address.isValid_parse valid
  have at_sign := breaking.address_free (show Address.isPlain '@' = false by decide)
  rw [(Address.parse_parts found).1] at at_sign
  exact at_sign (List.mem_append_right _ List.mem_cons_self)

end Breaking

variable {κ : Type} [Consumer κ]

/-- A client in clear that has not read some of what it was answered. -/
structure Behind (channel : Channel (Live (Session κ))) (pending : List String) (consumer : κ) :
    Prop where
  attending : Attending channel
  unread : channel.unread = pending.flatMap lineBytes
  begun : channel.peer.session.begun = true
  running : channel.peer.session.result? = none
  consumer : channel.peer.session.desk.consumer = consumer

/-- A command that gets the same answer whatever is in the draft, and is not the last of a mail. -/
structure Prompt (consumer : κ) (command : Command) (answer : String) : Prop where
  fits : Fits command.line
  one_line : '\n' ∉ answer.toList
  answered : ∀ desk : Desk κ, desk.consumer = consumer → ∃ read after,
    Command.parse? (chomp command.line) = some read ∧
      desk.respond? read = some (answer, after) ∧ after.consumer = consumer

namespace Behind

variable {channel : Channel (Live (Session κ))} {pending rest : List String} {consumer : κ}
  {name : String} {command : Command} {answer reply : String}

theorem write (behind : Behind channel pending consumer)
    (prompt : Prompt consumer command answer) :
    ∃ after, (Talk.writeLine command.line).run channel = (.ok (), after) ∧
      Behind after (pending ++ [answer]) consumer := by
  have not_over : ¬ channel.peer.session.result?.isSome = true := by
    rw [behind.running]
    exact Bool.false_ne_true
  obtain ⟨unread, clear⟩ := behind.attending.waiting.waiting.resolve_left not_over
  obtain ⟨read, desk, parsed, response, same⟩ := prompt.answered _ behind.consumer
  have taken := Session.take_parsed clear behind.begun parsed response prompt.one_line
  have running : Wire.Session.isOver channel.peer.session = false := eq_false_of_ne_true not_over
  have fed := Wire.Session.feed_line running prompt.fits
  have whole : channel.peer.unread ++ lineBytes command.line = lineBytes command.line := by
    rw [unread, List.nil_append]
  change _ = (Session.take _ _, _) at fed
  rw [taken, ← whole] at fed
  have heard := behind.attending.waiting.hear_fed fed [answer] rfl
  generalize next_eq : ({ channel.peer.session.exchange (chomp command.line) answer with desk } :
    Session κ) = next at heard
  refine ⟨⟨channel.endpoint.say command.line, channel.unread ++ [answer].flatMap lineBytes,
    ⟨next, [], next.endpoint.sent.length⟩⟩, ?_, ⟨behind.attending.clear, rfl, Or.inr ⟨rfl, ?_⟩⟩,
    ?_, ?_, ?_, ?_⟩
  · rw [Talk.run_writeLine]
    simp only [Channel.send, Wire.Endpoint.encode_clear behind.attending.clear prompt.fits.one_line,
      heard]
  · subst next_eq
    exact clear
  · rw [List.flatMap_append, behind.unread]
  · subst next_eq
    exact behind.begun
  · subst next_eq
    exact behind.running
  · subst next_eq
    exact same

omit [Consumer κ] in
theorem left (behind : Behind channel pending consumer) {endpoint : Endpoint}
    (clear : endpoint.cipher = none) (rest : List String) :
    Behind ⟨endpoint, rest.flatMap lineBytes, channel.peer⟩ rest consumer :=
  ⟨⟨clear, behind.attending.waiting⟩, rfl, behind.begun, behind.running, behind.consumer⟩

theorem request_fits (behind : Behind channel pending consumer)
    (prompt : Prompt consumer command answer) (queue : pending ++ [answer] = reply :: rest)
    (fits : Fits reply) :
    ∃ after, (Client.request command).run channel = (.ok (chomp reply), after) ∧
      Behind after rest consumer := by
  obtain ⟨middle, written, waiting⟩ := behind.write prompt
  have unread : middle.unread = lineBytes reply ++ rest.flatMap lineBytes := by
    rw [waiting.unread, queue, List.flatMap_cons]
  have received := receive_fits waiting.attending.clear fits unread
  have clear : (middle.endpoint.hear (chomp reply)).cipher = none := waiting.attending.clear
  exact ⟨_, (Talk.run_ok written).trans received, waiting.left clear rest⟩

theorem request_long (behind : Behind channel pending consumer) (breaking : Breaking name)
    (prompt : Prompt consumer command answer)
    (queue : pending ++ [answer] = complaint name :: rest) :
    ∃ after, (Client.request command).run channel = (.error .lineTooLong, after) ∧
      Behind after ("ok" :: rest) consumer := by
  obtain ⟨middle, written, waiting⟩ := behind.write prompt
  have unread : middle.unread =
      lineBytes ("error invalid recipient " ++ name ++ "ok") ++ rest.flatMap lineBytes := by
    rw [waiting.unread, queue, List.flatMap_cons, complaint_start]
  have received := receive_start breaking.start_free breaking.start_full unread
  exact ⟨_, (Talk.run_ok written).trans received,
    waiting.left waiting.attending.clear ("ok" :: rest)⟩

/-- The client gets as far as there are old answers, and is behind by one answer more. -/
theorem fill {count : Nat} {first : List Command} (others : List Command)
    (behind : Behind channel (List.replicate count "ok" ++ complaint name :: rest) consumer)
    (breaking : Breaking name) (prompt : ∀ command ∈ first, Prompt consumer command "ok")
    (enough : count < first.length) :
    ∃ after, (forM (first ++ others) Client.command : Talk (Live (Session κ)) Unit).run channel =
        (.error .lineTooLong, after) ∧
      Behind after ("ok" :: rest ++ List.replicate (count + 1) "ok") consumer := by
  induction first generalizing channel count rest with
  | nil => exact absurd enough (Nat.not_lt_zero count)
  | cons command first ih =>
      have this_one := prompt command List.mem_cons_self
      rw [List.cons_append, List.forM_cons]
      cases count with
      | zero =>
          obtain ⟨after, requested, behind_after⟩ := behind.request_long breaking this_one rfl
          have failed : (Client.command command).run channel = (.error .lineTooLong, after) :=
            Talk.run_error requested
          exact ⟨after, Talk.run_error failed, behind_after⟩
      | succ count =>
          have queue : List.replicate (count + 1) "ok" ++ complaint name :: rest ++ ["ok"] =
              "ok" :: (List.replicate count "ok" ++ complaint name :: (rest ++ ["ok"])) := by
            rw [List.append_assoc, List.replicate_succ]
            rfl
          obtain ⟨middle, requested, behind_middle⟩ :=
            behind.request_fits this_one queue ok_fits
          obtain ⟨after, failed, behind_after⟩ := ih behind_middle
            (fun other member => prompt other (List.mem_cons_of_mem command member))
            (Nat.lt_of_succ_lt_succ enough)
          refine ⟨after, (Talk.run_ok (Client.command_ok requested)).trans failed, ?_⟩
          rwa [← List.cons_append, List.append_assoc, List.singleton_append,
            ← List.replicate_succ] at behind_after

end Behind

section Prompts

variable {consumer : κ} {name : String}

theorem lost_prompt (breaking : Breaking name) (consumer : κ) :
    Prompt consumer (.recipients (lost name).recipients) (complaint name) := by
  have formed : (Command.recipients (lost name).recipients).WellFormed := by
    refine ⟨List.cons_ne_nil _ _, List.forall_mem_singleton.mpr ⟨fun empty => ?_,
      breaking.address_free (by decide), breaking.address_free (by decide)⟩⟩
    exact absurd (String.append_eq_empty_iff.mp empty).2 (by decide)
  have line : (Command.recipients (lost name).recipients).line = "to " ++ (name ++ "ok") := rfl
  have line_free {c : Char} (special : Address.isPlain c = false) (other : c ∉ "to ".toList) :
      c ∉ (Command.recipients (lost name).recipients).line.toList := by
    rw [line, Text.append_free]
    exact ⟨other, breaking.address_free special⟩
  refine ⟨⟨line_free (by decide) (by decide), ?_⟩, ?_, fun desk same => ?_⟩
  · have words : (Text.utf8 "to ").length = 3 := by decide
    have tail : (Text.utf8 "ok").length = 2 := by decide
    rw [line, Wire.lineBytes_append, Text.utf8_append, List.length_append, words, tail,
      breaking.size]
    decide
  · rw [complaint_start, Text.append_free]
    exact ⟨breaking.start_free, by decide⟩
  · refine ⟨.recipients (lost name).recipients, desk, ?_, ?_, same⟩
    · rw [Wire.chomp_free (line_free (by decide) (by decide)), Command.parse_line formed]
    · obtain ⟨address, member, _, refused⟩ := desk.setRecipients_invalid
        fun valid => breaking.invalid (valid _ List.mem_cons_self)
      rw [List.mem_singleton.mp member] at refused
      exact congrArg some refused

theorem tagged_admitted (accepts : Consumer.accepts consumer "gaz@earth.planet" = true) :
    Desk.admission consumer tagged.recipients = "ok 1" := by
  have none_refused : tagged.recipients.filter (!Consumer.accepts consumer ·) = [] := by
    simp only [tagged, List.filter_cons, accepts, Bool.not_true, Bool.false_eq_true, if_false,
      List.filter_nil]
  rw [Desk.admission, if_pos none_refused]
  decide

theorem tagged_prompt (accepts : Consumer.accepts consumer "gaz@earth.planet" = true) :
    Prompt consumer (.recipients tagged.recipients) "ok 1" := by
  have valid : ∀ address ∈ tagged.recipients, Address.isValid address = true := by decide
  refine ⟨⟨by decide, by decide⟩, by decide, fun desk same =>
    ⟨.recipients tagged.recipients, { desk with draft.recipients := some tagged.recipients },
      by decide, ?_, same⟩⟩
  have admitted : Desk.admission desk.consumer tagged.recipients = "ok 1" := by
    rw [same]
    exact tagged_admitted accepts
  have listed := desk.setRecipients_valid valid
  rw [admitted] at listed
  exact congrArg some listed

theorem tagged_prompts (consumer : κ) :
    ∀ command ∈ Client.filling tagged, Prompt consumer command "ok" := by
  have valid : Address.isValid tagged.sender = true := by decide
  have prompt {command : Command} (fits : Fits command.line)
      (parsed : Command.parse? (chomp command.line) = some command)
      (supplied : ∀ desk : Desk κ, ∃ after,
        desk.respond? command = some ("ok", after) ∧ after.consumer = desk.consumer) :
      Prompt consumer command "ok" := by
    refine ⟨fits, by decide, fun desk same => ?_⟩
    obtain ⟨after, response, kept⟩ := supplied desk
    exact ⟨command, after, parsed, response, kept.trans same⟩
  change ∀ command ∈ [Command.sender tagged.sender, .subject tagged.subject, .body tagged.body,
    .tag "AAAA"], Prompt consumer command "ok"
  simp only [List.forall_mem_cons]
  refine ⟨prompt ⟨by decide, by decide⟩ (by decide) fun desk => ?_,
    prompt ⟨by decide, by decide⟩ (by decide) fun desk => ⟨_, rfl, rfl⟩,
    prompt ⟨by decide, by decide⟩ (by decide) fun desk => ⟨_, rfl, rfl⟩,
    prompt ⟨by decide, by decide⟩ (by decide) fun desk => ⟨_, rfl, rfl⟩, nofun⟩
  exact ⟨_, congrArg some (desk.setSender_valid valid), rfl⟩

end Prompts

/-- Mails that all fail, and leave the client behind. -/
def Derails (mails : List Mail) (channel : Channel (Live (Session κ))) (pending : List String)
    (consumer : κ) : Prop :=
  ∃ submissions after, Client.sendAll mails channel = (submissions, after) ∧
    (∀ submission ∈ submissions, ∃ error, submission.result = .error error) ∧
    Behind after pending consumer

/-- The answers of which the client is behind, after so many rounds. -/
def stale : Nat → List String
  | 0 => ["ok"]
  | count + 1 => "ok" :: "ok 1" :: List.replicate count "ok"

section Derailing

variable {channel : Channel (Live (Session κ))} {pending rest : List String} {consumer : κ}
  {name : String}

theorem Derails.single {mail : Mail} {error : Error} {refused : Option (List String)}
    {after : Channel (Live (Session κ))}
    (failed : Client.sendMail mail channel = (⟨.error error, refused⟩, after))
    (behind : Behind after pending consumer) : Derails [mail] channel pending consumer := by
  refine ⟨[⟨.error error, refused⟩], after, ?_, List.forall_mem_singleton.mpr ⟨error, rfl⟩, behind⟩
  simp only [Client.sendAll, failed]

theorem Derails.append {first second : List Mail}
    (derails : Derails first channel pending consumer)
    (more : ∀ {after : Channel (Live (Session κ))}, Behind after pending consumer →
      Derails second after rest consumer) :
    Derails (first ++ second) channel rest consumer := by
  obtain ⟨submissions, middle, sent, failed, behind⟩ := derails
  obtain ⟨others, after, others_sent, others_failed, behind_after⟩ := more behind
  refine ⟨submissions ++ others, after, ?_, List.forall_mem_append.mpr ⟨failed, others_failed⟩,
    behind_after⟩
  rw [Client.sendAll_append, sent]
  simp only [others_sent]

theorem sendRecipients_fails {mail : Mail} {error : Error} {after : Channel (Live (Session κ))}
    (failed : (Client.sendRecipients mail).run channel = (.error error, after)) :
    Client.sendMail mail channel = (⟨.error error, none⟩, after) := by
  simp only [Client.sendMail, failed]

theorem sendRecipients_admitted {mail : Mail} {after : Channel (Live (Session κ))}
    (single : mail.recipients.length = 1)
    (replied : (Client.request (.recipients mail.recipients)).run channel =
      (.ok (chomp "ok 1"), after)) :
    (Client.sendRecipients mail).run channel = (.ok none, after) := by
  have plain : chomp "ok 1" = "ok 1" := by decide
  have read : Client.readRefusal 1 "ok 1" = .ok none := by decide
  rw [Client.sendRecipients, Talk.run_ok replied, plain, single, read]
  rfl

theorem Behind.send_lost (behind : Behind channel ("ok" :: pending) consumer)
    (breaking : Breaking name) :
    Derails [lost name] channel (pending ++ [complaint name]) consumer := by
  obtain ⟨after, replied, behind_after⟩ :=
    behind.request_fits (lost_prompt breaking consumer) rfl ok_fits
  have failed : (Client.sendRecipients (lost name)).run channel =
      (.error (.unexpectedReplyTo "to" "ok"), after) := by
    rw [Client.sendRecipients, Talk.run_ok replied, chomp_ok]
    rfl
  exact Derails.single (sendRecipients_fails failed) behind_after

theorem Behind.send_first (behind : Behind channel [] consumer) (breaking : Breaking name) :
    Derails [lost name] channel (stale 0) consumer := by
  obtain ⟨after, failed, behind_after⟩ :=
    behind.request_long breaking (lost_prompt breaking consumer) rfl
  exact Derails.single (sendRecipients_fails (Talk.run_error failed)) behind_after

variable (accepts : Consumer.accepts consumer "gaz@earth.planet" = true)
include accepts

theorem Behind.send_tagged (behind : Behind channel [complaint name] consumer)
    (breaking : Breaking name) : Derails [tagged] channel (stale 1) consumer := by
  obtain ⟨after, failed, behind_after⟩ := behind.request_long breaking (tagged_prompt accepts) rfl
  exact Derails.single (sendRecipients_fails (Talk.run_error failed)) behind_after

theorem Behind.send_tagged_admitted {count : Nat} (few : count < 4)
    (behind : Behind channel ("ok 1" :: List.replicate count "ok" ++ [complaint name]) consumer)
    (breaking : Breaking name) : Derails [tagged] channel (stale (count + 2)) consumer := by
  have queue : "ok 1" :: List.replicate count "ok" ++ [complaint name] ++ ["ok 1"] =
      "ok 1" :: (List.replicate count "ok" ++ complaint name :: ["ok 1"]) :=
    congrArg ("ok 1" :: ·) (List.append_assoc ..)
  obtain ⟨middle, replied, behind_middle⟩ :=
    behind.request_fits (tagged_prompt accepts) queue ⟨by decide, by decide⟩
  have listed := sendRecipients_admitted rfl replied
  obtain ⟨after, filled, behind_after⟩ :=
    behind_middle.fill [.send] breaking (tagged_prompts consumer) few
  have content : (Client.sendContent tagged).run middle = (.error .lineTooLong, after) := by
    rw [Client.sendContent_forM]
    exact filled
  have failed : Client.sendMail tagged channel = (⟨.error .lineTooLong, none⟩, after) := by
    simp only [Client.sendMail, listed, content]
  exact Derails.single failed behind_after

theorem Behind.round {count : Nat} (few : count < 5)
    (behind : Behind channel (stale count) consumer) (breaking : Breaking name) :
    Derails [lost name, tagged] channel (stale (count + 1)) consumer := by
  have lost_first {pending : List String} (behind : Behind channel ("ok" :: pending) consumer) :=
    behind.send_lost breaking
  cases count with
  | zero => exact (lost_first behind).append fun behind => behind.send_tagged accepts breaking
  | succ count =>
      exact (lost_first behind).append fun behind =>
        behind.send_tagged_admitted accepts (Nat.lt_of_succ_lt_succ few) breaking

theorem Behind.rounds {count : Nat} (more : Nat) (few : count + more ≤ 5)
    (behind : Behind channel (stale count) consumer) (breaking : Breaking name) :
    Derails (List.replicate more [lost name, tagged]).flatten channel (stale (count + more))
      consumer := by
  induction more generalizing channel count with
  | zero => exact ⟨[], channel, rfl, nofun, behind⟩
  | succ more ih =>
      rw [List.replicate_succ, List.flatten_cons]
      refine (behind.round accepts (by omega) breaking).append fun behind => ?_
      have rest := ih (by omega) behind
      rwa [Nat.add_right_comm] at rest

end Derailing

section Believing

variable {channel : Channel (Live (Session κ))} {command : Command} {reply : String} {rest : Bytes}

/-- Whatever comes of a command, the client takes an old answer for the one to it. -/
theorem Attending.believe (attending : Attending channel) (one_line : '\n' ∉ command.line.toList)
    (fits : Fits reply) (unread : channel.unread = lineBytes reply ++ rest) :
    ∃ after more, (Client.request command).run channel = (.ok (chomp reply), after) ∧
      Attending after ∧ after.unread = rest ++ more := by
  obtain ⟨replies, peer, written, answered⟩ := attending.write one_line
  let middle : Channel (Live (Session κ)) :=
    ⟨channel.endpoint.say command.line, channel.unread ++ replies.flatMap lineBytes, peer⟩
  have old_first : middle.unread = lineBytes reply ++ (rest ++ replies.flatMap lineBytes) := by
    change channel.unread ++ replies.flatMap lineBytes = _
    rw [unread, List.append_assoc]
  have received : middle.receive = _ := receive_fits attending.clear fits old_first
  exact ⟨_, _, (Talk.run_ok written).trans received, ⟨attending.clear, answered.waiting⟩, rfl⟩

theorem Attending.believe_all {commands : List Command} (attending : Attending channel)
    (one_line : ∀ command ∈ commands, '\n' ∉ command.line.toList)
    (unread : channel.unread =
      (List.replicate commands.length "ok").flatMap lineBytes ++ rest) :
    ∃ after, (forM commands Client.command : Talk (Live (Session κ)) Unit).run channel =
      (.ok (), after) := by
  induction commands generalizing channel rest with
  | nil => exact ⟨channel, rfl⟩
  | cons command commands ih =>
      rw [List.length_cons, List.replicate_succ, List.flatMap_cons, List.append_assoc] at unread
      obtain ⟨middle, more, replied, still_attending, left⟩ :=
        attending.believe (one_line command List.mem_cons_self) ok_fits unread
      rw [List.append_assoc] at left
      obtain ⟨after, believed⟩ := ih still_attending
        (fun other member => one_line other (List.mem_cons_of_mem command member)) left
      exact ⟨after, (Talk.run_ok (Client.command_ok replied)).trans believed⟩

end Believing

namespace Client

theorem texts_one_line {mail : Mail} (one_line : ∀ text ∈ texts mail, '\n' ∉ text.toList) :
    ∀ command ∈ commands mail, '\n' ∉ command.line.toList := by
  have after {start text : String} (free : '\n' ∉ start.toList) (member : text ∈ texts mail) :
      '\n' ∉ (start ++ text).toList := Text.append_free.mpr ⟨free, one_line text member⟩
  intro command member
  simp only [commands, content, List.mem_cons, List.mem_append, List.mem_map, Option.mem_toList,
    List.not_mem_nil, or_false] at member
  rcases member with rfl | ((rfl | rfl | rfl) | ⟨tag, tagged, rfl⟩) | rfl
  · refine Text.append_free.mpr ⟨by decide, Text.join_free (by decide) fun address present => ?_⟩
    exact one_line address (by simp [texts, present])
  · exact after (by decide) (by simp [texts])
  · exact after (by decide) (by simp [texts])
  · exact after (by decide) (by simp [texts])
  · exact after (by decide) (by simp [texts, tagged])
  · decide

/-- Mails that are too much for the client, although all their lines fit. -/
def derailing (name : String) : List Mail :=
  lost name :: ((List.replicate 5 [lost name, tagged]).flatten ++ [lost name])

theorem derailing_fits {name : String} (breaking : Breaking name) :
    ∀ mail ∈ derailing name, ∀ command ∈ commands mail, Fits command.line := by
  have content_fits : ∀ command ∈ content tagged, Fits command.line :=
    List.forall_mem_append.mpr ⟨fun command member => (tagged_prompts planet command member).fits,
      List.forall_mem_singleton.mpr send_carried.fits⟩
  have tagged_fits : ∀ command ∈ commands tagged, Fits command.line :=
    List.forall_mem_cons.mpr ⟨⟨by decide, by decide⟩, content_fits⟩
  have lost_fits : ∀ command ∈ commands (lost name), Fits command.line :=
    List.forall_mem_cons.mpr ⟨(lost_prompt breaking planet).fits, content_fits⟩
  intro mail member
  simp only [derailing, List.mem_cons, List.mem_append, List.mem_flatten, List.mem_replicate,
    List.not_mem_nil, or_false] at member
  rcases member with rfl | ⟨_, ⟨_, rfl⟩, member⟩ | rfl
  · exact lost_fits
  · rcases List.mem_cons.mp member with rfl | member
    · exact lost_fits
    · rw [List.mem_singleton.mp member]
      exact tagged_fits
  · exact lost_fits

theorem derailing_derails {channel : Channel (Live (Session κ))} {consumer : κ} {name : String}
    (accepts : Consumer.accepts consumer "gaz@earth.planet" = true) (breaking : Breaking name)
    (behind : Behind channel [] consumer) :
    Derails (derailing name) channel
      ("ok 1" :: List.replicate 4 "ok" ++ [complaint name]) consumer := by
  refine (behind.send_first breaking).append fun behind => ?_
  refine (behind.rounds accepts 5 (by decide) breaking).append fun behind => ?_
  have behind_ok : Behind _ ("ok" :: "ok 1" :: List.replicate 4 "ok") consumer := behind
  exact behind_ok.send_lost breaking

theorem opened_behind (label client_label : LogPrefix) (consumer : κ) :
    Behind (opened label client_label consumer) [] ⟨consumer, []⟩ := by
  obtain ⟨attending, unread⟩ := opened_attending label client_label consumer
  obtain ⟨channel, session, began, ready, fresh⟩ :=
    begin_ready label client_label (⟨consumer, []⟩ : Journal κ)
  have same : opened label client_label consumer = channel := congrArg Prod.snd began
  have peer : (opened label client_label consumer).peer.session = session := by
    rw [same, ready.quiet.peer]
  exact ⟨attending, unread, by rw [peer]; exact ready.begun, by rw [peer]; exact ready.running,
    by rw [peer, fresh]⟩

/-- A client can be brought to take mails for sent that no server takes: after some mails of which
every line fits, and of which none is consumed, it takes any untagged mail to a single recipient for
sent, whether its lines fit or not. -/
theorem out_of_step (label client_label : LogPrefix) (consumer : κ)
    (accepts : Consumer.accepts consumer "gaz@earth.planet" = true) :
    ∃ earlier submissions channel,
      (∀ mail ∈ earlier, ∀ command ∈ commands mail, Fits command.line) ∧
      sendAll earlier (opened label client_label consumer) = (submissions, channel) ∧
      (∀ submission ∈ submissions, ∃ error, submission.result = .error error) ∧
      channel.peer.session.desk.consumer = ⟨consumer, []⟩ ∧
      ∀ mail : Mail, mail.recipients.length = 1 → mail.tag = none →
        (∀ text ∈ texts mail, '\n' ∉ text.toList) →
        (sendMail mail channel).1.result = .ok () ∧
        ((∃ command ∈ commands mail, ¬ Fits command.line) →
          (sendMail mail channel).2.peer.session.desk.consumer = ⟨consumer, []⟩) := by
  have journal_accepts : Consumer.accepts (⟨consumer, []⟩ : Journal κ) "gaz@earth.planet" = true :=
    accepts
  obtain ⟨submissions, channel, sent, failed, behind⟩ := derailing_derails journal_accepts
    filler_breaking (opened_behind label client_label consumer)
  refine ⟨derailing (Text.filler 65512), submissions, channel, derailing_fits filler_breaking, sent,
    failed, behind.consumer, fun mail single untagged plain => ?_⟩
  have one_line := texts_one_line plain
  refine ⟨?_, fun unfit => (sendMail_keeps behind.attending unfit).trans behind.consumer⟩
  have unread := behind.unread
  rw [List.cons_append, List.flatMap_cons, List.flatMap_append] at unread
  obtain ⟨middle, more, replied, attending, left⟩ :=
    behind.attending.believe (one_line _ List.mem_cons_self) ⟨by decide, by decide⟩ unread
  have four : (content mail).length = 4 := by
    simp [content, untagged]
  rw [List.append_assoc, ← four] at left
  obtain ⟨after, believed⟩ := attending.believe_all
    (fun command member => one_line command (List.mem_cons_of_mem _ member)) left
  have content_sent : (sendContent mail).run middle = (.ok (), after) := by
    rw [sendContent_forM]
    exact believed
  simp only [sendMail, sendRecipients_admitted single replied, content_sent]

def unnoticed : Mail := { tagged with body := Text.filler 65531, tag := none }

theorem out_of_step_unnoticed :
    let opened := opened (.ofProtocol "DMTP") (.ofProtocol "DMTP") planet
    ∃ earlier, (∀ mail ∈ earlier, ∀ command ∈ commands mail, Fits command.line) ∧
      (sendMail unnoticed (sendAll earlier opened).2).1.result = .ok () ∧
      (sendMail unnoticed (sendAll earlier opened).2).2.peer.session.desk.consumer.calls = [] := by
  intro opened
  obtain ⟨earlier, submissions, channel, fits, sent, _, _, believes⟩ :=
    out_of_step (.ofProtocol "DMTP") (.ofProtocol "DMTP") planet (by decide)
  have plain : ∀ text ∈ texts unnoticed, '\n' ∉ text.toList := by
    have filled : '\n' ∉ (Text.filler 65531).toList :=
      fun member => absurd (Text.mem_filler member) (by decide)
    simp only [texts, unnoticed, tagged, Option.toList_none, List.append_nil, List.cons_append,
      List.nil_append, List.forall_mem_cons]
    exact ⟨by decide, by decide, by decide, filled, List.forall_mem_nil _⟩
  obtain ⟨believed, kept⟩ := believes unnoticed rfl rfl plain
  have unfit : ∃ command ∈ commands unnoticed, ¬ Fits command.line :=
    ⟨.body unnoticed.body, by simp [commands, content],
      fun fits => Nat.not_le_of_gt endless_long fits.short⟩
  have after : (sendAll earlier opened).2 = channel := congrArg Prod.snd sent
  refine ⟨earlier, fits, ?_, ?_⟩
  · rw [after]
    exact believed
  · rw [after, kept unfit]

end Client

end MailExchange.Transfer
