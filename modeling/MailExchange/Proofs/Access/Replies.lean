import MailExchange.Proofs.Access.Account
import MailExchange.Proofs.Address
import MailExchange.Proofs.Text.Decimal
import MailExchange.Proofs.Transfer.Command
import MailExchange.Proofs.Wire.Exchange
import MailExchange.Proofs.Wire.Link

namespace MailExchange.Access.Client

open Text (Bytes)
open Wire (Channel Endpoint Linked Live Peer Talk expectOk expectOk_error splitCommand
  splitCommand_error splitCommand_ok splitCommand_word)

theorem readIdentity_ok {identity : String} (some_char : identity ≠ "") :
    readIdentity ("ok " ++ identity) = .ok identity := by
  simp only [readIdentity, expectOk, splitCommand_ok, some_char, if_false]

theorem error_ne {line : String} (other : line.toList.head? ≠ some 'e') (text : String) :
    "error " ++ text ≠ line := by
  rintro rfl
  apply other
  rw [String.toList_append]
  rfl

section Fields

theorem readField_word {keyword start : String} (starts : start = keyword ++ " ")
    (free : ' ' ∉ keyword.toList) (value : String) :
    readField keyword (start ++ value) = .ok value := by
  rw [readField, starts, splitCommand_word free]
  exact if_pos rfl

theorem readField_error {keyword : String} (other : "error" ≠ keyword) (text : String) :
    readField keyword ("error " ++ text) = .error (.remote text) := by
  rw [readField, splitCommand_error]
  simp only [other, if_false, expectOk_error, Except.bind]

theorem readSummary_error (text : String) :
    readSummary ("error " ++ text) = .error (.remote text) := by
  have no_number : Text.word64? "error" = none := by decide
  simp only [readSummary, splitCommand_error, no_number, expectOk_error, Except.bind]

theorem word64_decimal (id : MessageId) : Text.word64? (Text.decimal id.toNat) = some id := by
  have same : Text.word? 64 (Text.decimal id.toNat) = some id.toNat :=
    Text.word_toString id.toNat_lt
  rw [Text.word64?, same, Option.map_some, UInt64.ofNat_toNat]

theorem decimal_free (value : Nat) : ' ' ∉ (Text.decimal value).toList := fun member =>
  absurd (Text.mem_toString member) (by decide)

theorem readSummary_line {summary : Summary} (free : ' ' ∉ summary.sender.toList) :
    readSummary (Answer.summaryLine summary) = .ok summary := by
  have cut : splitCommand (Answer.summaryLine summary) = (Text.decimal summary.id.toNat,
      some (summary.sender ++ " " ++ summary.subject)) := by
    have glued : Answer.summaryLine summary = Text.decimal summary.id.toNat ++ " " ++
        (summary.sender ++ " " ++ summary.subject) := by
      simp only [Answer.summaryLine, String.append_assoc]
    rw [glued]
    exact splitCommand_word (decimal_free _) _
  simp only [readSummary, cut, word64_decimal, splitCommand_word free]

theorem summaryLine_ne {summary : Summary} (free : ' ' ∉ summary.sender.toList) {line : String}
    (unreadable : ∃ error, readSummary line = .error error) :
    Answer.summaryLine summary ≠ line := by
  rintro rfl
  obtain ⟨error, failed⟩ := unreadable
  rw [readSummary_line free] at failed
  cases failed

end Fields

/-- A mail that can be read back from the lines that show it. -/
structure Readable (mail : Mail) : Prop where
  sender : Address.isValid mail.sender = true
  some_recipient : mail.recipients ≠ []
  recipients : ∀ address ∈ mail.recipients, Address.isValid address = true
  tag : mail.tag ≠ some ""

/-- How a request can end. -/
inductive Suits : Request → Except String Answer → Prop where
  | refused {request : Request} (text : String) : Suits request (.error text)
  | login (user password : String) : Suits (.login user password) (.ok .done)
  | list (summaries : List Summary) (free : ∀ summary ∈ summaries, ' ' ∉ summary.sender.toList) :
      Suits .list (.ok (.listed summaries))
  | view (id : MessageId) (mail : Mail) (readable : Readable mail) :
      Suits (.view id) (.ok (.shown mail))
  | delete (id : MessageId) : Suits (.delete id) (.ok .done)
  | logout : Suits .logout (.ok .done)

section Reading

variable {σ : Type} [Wire.Session σ] {session : σ} {far : Endpoint} {channel : Channel (Live σ)}

theorem readList_linked {summaries : List Summary} {line : String} {lines : List String}
    (free : ∀ summary ∈ summaries, ' ' ∉ summary.sender.toList)
    (listed : line :: lines = summaries.map Answer.summaryLine ++ ["ok"])
    (linked : Linked session far lines channel) (found : List Summary) :
    ∃ after, readList found line channel = (.ok (found.reverse ++ summaries), after) ∧
      Linked session far [] after := by
  induction summaries generalizing line lines channel found with
  | nil =>
      cases listed
      rw [readList, if_pos rfl, List.append_nil]
      exact ⟨channel, rfl, linked⟩
  | cons summary summaries ih =>
      have sender_free := free summary List.mem_cons_self
      obtain ⟨next, rest, shape⟩ : ∃ next rest,
          summaries.map Answer.summaryLine ++ ["ok"] = next :: rest := by
        cases summaries with
        | nil => exact ⟨_, _, rfl⟩
        | cons other others => exact ⟨_, _, rfl⟩
      rw [List.map_cons, List.cons_append, shape] at listed
      cases listed
      obtain ⟨middle, received, linked_middle, _⟩ := linked.receive
      obtain ⟨after, read, linked_after⟩ :=
        ih (fun other member => free other (List.mem_cons_of_mem _ member)) shape.symm linked_middle
          (summary :: found)
      refine ⟨after, ?_, linked_after⟩
      rw [readList, if_neg (summaryLine_ne sender_free ⟨_, rfl⟩)]
      simp only [readSummary_line sender_free]
      split
      · rename_i failed
        rw [received] at failed
        cases failed
      · rename_i same
        rw [received] at same
        cases same
        rw [read, List.reverse_cons, List.append_assoc, List.singleton_append]

theorem run_command {command : Command} {reply : String} {after : Channel (Live σ)}
    (asked : (request command).run channel = (.ok reply, after)) :
    (Client.command command).run channel = match expectOk reply with
      | .error error => (.error error, after)
      | .ok none => (.ok (), after)
      | .ok (some _) => (.error (.unexpectedReply reply), after) := by
  rw [Client.command, Talk.run_ok asked]
  cases expectOk reply with
  | error error => rfl
  | ok text => cases text <;> rfl

theorem run_list_error {text : String} {after : Channel (Live σ)}
    (asked : (request .list).run channel = (.ok ("error " ++ text), after)) :
    list.run channel = (.error (.remote text), after) := by
  have none_else : "error " ++ text ≠ noMail := error_ne (by decide) text
  have not_over : "error " ++ text ≠ "ok" := error_ne (by decide) text
  rw [list, Talk.run_ok asked, if_neg none_else]
  change readList [] ("error " ++ text) after = _
  rw [readList, if_neg not_over, readSummary_error]

theorem run_list_empty {after : Channel (Live σ)}
    (asked : (request .list).run channel = (.ok noMail, after)) :
    list.run channel = (.ok [], after) := by
  rw [list, Talk.run_ok asked, if_pos rfl]
  rfl

theorem run_list {summary : Summary} {summaries : List Summary} {middle : Channel (Live σ)}
    (free : ∀ other ∈ summary :: summaries, ' ' ∉ other.sender.toList)
    (asked : (request .list).run channel = (.ok (Answer.summaryLine summary), middle))
    (linked : Linked session far (summaries.map Answer.summaryLine ++ ["ok"]) middle) :
    ∃ after, list.run channel = (.ok (summary :: summaries), after) ∧
      Linked session far [] after := by
  have some_mail : Answer.summaryLine summary ≠ noMail :=
    summaryLine_ne (free summary List.mem_cons_self) ⟨_, rfl⟩
  obtain ⟨after, read, linked_after⟩ := readList_linked free rfl linked []
  refine ⟨after, ?_, linked_after⟩
  rw [list, Talk.run_ok asked, if_neg some_mail]
  exact read

theorem run_nextField {keyword start value : String} {lines : List String}
    (starts : start = keyword ++ " ") (free : ' ' ∉ keyword.toList)
    (linked : Linked session far ((start ++ value) :: lines) channel) :
    ∃ after, (nextField keyword).run channel = (.ok value, after) ∧
      Linked session far lines after := by
  obtain ⟨after, received, linked_after, _⟩ := linked.receive
  have read : Talk.readLine.run channel = (.ok (start ++ value), after) := received
  refine ⟨after, ?_, linked_after⟩
  rw [nextField, Talk.run_ok read, readField_word starts free]
  rfl

theorem run_tag {tag : Option String} {line : String} {lines : List String}
    (written : line = match tag with
      | some tag => "hash " ++ tag
      | none => "hash")
    (some_char : tag ≠ some "")
    (linked : Linked session far (line :: lines) channel) :
    ∃ value after, (nextField "hash").run channel = (.ok value, after) ∧
      (if value = "" then none else some value) = tag ∧ Linked session far lines after := by
  cases tag with
  | none =>
      obtain ⟨after, received, linked_after, _⟩ := linked.receive
      have read : Talk.readLine.run channel = (.ok line, after) := received
      refine ⟨"", after, ?_, rfl, linked_after⟩
      rw [nextField, Talk.run_ok read, written]
      rfl
  | some tag =>
      rw [written] at linked
      obtain ⟨after, read, linked_after⟩ :=
        run_nextField (show "hash " = "hash" ++ " " from rfl) (by decide) linked
      refine ⟨tag, after, read, if_neg fun empty => some_char (by rw [empty]), linked_after⟩

theorem run_view_error {id : MessageId} {text : String} {after : Channel (Live σ)}
    (asked : (request (.view id)).run channel = (.ok ("error " ++ text), after)) :
    (view id).run channel = (.error (.remote text), after) := by
  rw [view, Talk.run_ok asked, readField_error (by decide)]
  exact Talk.run_error (Talk.run_ofExcept _ after)

theorem run_view {id : MessageId} {mail : Mail} {middle : Channel (Live σ)}
    (some_recipient : mail.recipients ≠ [])
    (recipients_free : ∀ address ∈ mail.recipients, ',' ∉ address.toList)
    (some_char : mail.tag ≠ some "") {line : String} {lines : List String}
    (shown : mailLines mail ++ ["ok"] = line :: lines)
    (asked : (request (.view id)).run channel = (.ok line, middle))
    (linked : Linked session far lines middle) :
    ∃ after, (view id).run channel = (.ok mail, after) ∧ Linked session far [] after := by
  have separate : Text.splitAtEach ',' mail.joinedRecipients = mail.recipients :=
    Text.splitAtEach_join rfl some_recipient recipients_free
  cases shown
  have sender : readField "from" ("from " ++ mail.sender) = .ok mail.sender :=
    readField_word rfl (by decide) mail.sender
  obtain ⟨first, read_recipients, linked_first⟩ :=
    run_nextField (show "to " = "to" ++ " " from rfl) (by decide) linked
  obtain ⟨second, read_subject, linked_second⟩ :=
    run_nextField (show "subject " = "subject" ++ " " from rfl) (by decide) linked_first
  obtain ⟨third, read_body, linked_third⟩ :=
    run_nextField (show "data " = "data" ++ " " from rfl) (by decide) linked_second
  obtain ⟨tag, fourth, read_tag, same_tag, linked_fourth⟩ := run_tag rfl some_char linked_third
  obtain ⟨after, received, linked_after, _⟩ := linked_fourth.receive
  have read_last : Talk.readLine.run fourth = (.ok "ok", after) := received
  refine ⟨after, ?_, linked_after⟩
  rw [view, Talk.run_ok asked, sender, Talk.run_ok (Talk.run_ofExcept _ middle),
    Talk.run_ok read_recipients, Talk.run_ok read_subject, Talk.run_ok read_body,
    Talk.run_ok read_tag, Talk.run_ok read_last]
  simp only [ne_eq, not_true_eq_false, if_false, separate, same_tag]
  rfl

end Reading

section Asking

variable {π : Type} [Peer π]

def perform : Request → Talk π Answer
  | .login user password => do
    login user password
    return .done
  | .list => do return .listed (← list)
  | .view id => do return .shown (← view id)
  | .delete id => do
    delete id
    return .done
  | .logout => do
    logout
    return .done

variable {random : Randomness} {files : Files.Tree} {keys store : Keys.Store}
  {channel middle after : Channel π} {identity : String} {key : Rsa.PublicKey} {error : Error}
  {result : Except Error Unit}

theorem startSecure_unasked (asked : askIdentity.run channel = (.error error, middle)) :
    startSecure random files keys channel = ((.error error, keys), middle) := by
  rw [startSecure, asked]

theorem startSecure_unknown (asked : askIdentity.run channel = (.ok identity, middle))
    (looked : keys.publicKey files identity = (.error error, store)) :
    startSecure random files keys channel = ((.error error, store), middle) := by
  simp only [startSecure, asked, looked]

theorem startSecure_shaken (asked : askIdentity.run channel = (.ok identity, middle))
    (looked : keys.publicKey files identity = (.ok key, store))
    (shaken : (shakeHands random key).run middle = (result, after)) :
    startSecure random files keys channel = ((result.map fun _ => identity, store), after) := by
  simp only [startSecure, asked, looked, shaken]

end Asking

section Answers

variable {σ : Type} [Wire.Session σ] {session : σ} {far : Endpoint}
  {channel middle : Channel (Live σ)} {reply : String} {replies : List String}

theorem perform_error {request : Request} {text : String}
    (asked : (Client.request request.command).run channel = (.ok ("error " ++ text), middle)) :
    (perform request).run channel = (.error (.remote text), middle) := by
  have refused {command : Command}
      (asked : (Client.request command).run channel = (.ok ("error " ++ text), middle)) :
      (Client.command command).run channel = (.error (.remote text), middle) := by
    rw [run_command asked, expectOk_error]
  cases request with
  | login user password => exact Talk.run_error (refused asked)
  | list => exact Talk.run_error (run_list_error asked)
  | view id => exact Talk.run_error (run_view_error asked)
  | delete id => exact Talk.run_error (refused asked)
  | logout => exact Talk.run_error (refused asked)

/-- The client learns how a request has ended, and reads no line too many. -/
theorem perform_answer {request : Request} {outcome : Except String Answer}
    (suits : Suits request outcome) (told : Answer.lines outcome = reply :: replies)
    (asked : (Client.request request.command).run channel = (.ok reply, middle))
    (linked : Linked session far replies middle) :
    ∃ after, (perform request).run channel = (outcome.mapError .remote, after) ∧
      Linked session far [] after := by
  have done {command : Command} (told : ["ok"] = reply :: replies)
      (asked : (Client.request command).run channel = (.ok reply, middle)) :
      (Client.command command).run channel = (.ok (), middle) ∧
        Linked session far [] middle := by
    cases told
    exact ⟨run_command asked, linked⟩
  cases suits with
  | refused text =>
      cases told
      exact ⟨middle, perform_error asked, linked⟩
  | login user password =>
      obtain ⟨ran, linked_after⟩ := done told asked
      exact ⟨middle, Talk.run_ok ran, linked_after⟩
  | delete id =>
      obtain ⟨ran, linked_after⟩ := done told asked
      exact ⟨middle, Talk.run_ok ran, linked_after⟩
  | logout =>
      obtain ⟨ran, linked_after⟩ := done told asked
      exact ⟨middle, Talk.run_ok ran, linked_after⟩
  | list summaries free =>
      cases summaries with
      | nil =>
          cases told
          exact ⟨middle, Talk.run_ok (run_list_empty asked), linked⟩
      | cons summary summaries =>
          cases told
          obtain ⟨after, ran, linked_after⟩ := run_list free asked linked
          exact ⟨after, Talk.run_ok ran, linked_after⟩
  | view id mail readable =>
      have recipients_free (address : String) (member : address ∈ mail.recipients) :
          ',' ∉ address.toList :=
        Address.valid_free (readable.recipients address member) (by decide) (by decide)
      obtain ⟨after, ran, linked_after⟩ :=
        run_view readable.some_recipient recipients_free readable.tag told asked linked
      exact ⟨after, Talk.run_ok ran, linked_after⟩

end Answers

end MailExchange.Access.Client
