import MailExchange.Proofs.Transfer.RoundTrip

/-!
Mails that a client sends one after another on one session. The draft of a mail that could not be
consumed stays on the desk, and the next mail overwrites all of it but the tag: a mail without a tag
is consumed with the one that was left.
-/

namespace MailExchange.Transfer

open Wire (Channel Fits Live)

def Client.sendAll {π : Type} [Wire.Peer π] :
    List Mail → Channel π → List Submission × Channel π
  | [], channel => ([], channel)
  | mail :: mails, channel =>
    let (submission, channel) := sendMail mail channel
    let (submissions, channel) := sendAll mails channel
    (submission :: submissions, channel)

theorem Client.sendAll_append {π : Type} [Wire.Peer π] (mails others : List Mail)
    (channel : Channel π) : sendAll (mails ++ others) channel =
      ((sendAll mails channel).1 ++ (sendAll others (sendAll mails channel).2).1,
        (sendAll others (sendAll mails channel).2).2) := by
  induction mails generalizing channel with
  | nil => rfl
  | cons mail mails ih => simp only [List.cons_append, sendAll, ih]

abbrev History := List (Mail × Except Error Unit)

def Client.history (mails : List Mail) (submissions : List Submission) : History :=
  mails.zip (submissions.map (·.result))

/-- The tag that is on the desk after a mail. -/
def leftTag (left : Option String) (call : Mail × Except Error Unit) : Option String :=
  match call.2 with
  | .ok () => none
  | .error _ => call.1.tag.or left

def accepted (history : History) : List Mail :=
  history.filterMap fun call => match call.2 with
    | .ok () => some call.1
    | .error _ => none

/-- What is consumed, if a tag was left from before. -/
def delivered : Option String → History → List Mail
  | _, [] => []
  | left, call :: later => match call.2 with
    | .ok () => call.1.retagged left :: delivered (leftTag left call) later
    | .error _ => delivered (leftTag left call) later

/-- No mail without a tag was accepted while there was one left. -/
def Untainted (left : Option String) (history : History) : Prop :=
  ∀ before call later, history = before ++ call :: later → call.2 = .ok () →
    call.1.tag = none → before.foldl leftTag left = none

theorem untainted_cons (left : Option String) (call : Mail × Except Error Unit) (later : History) :
    Untainted left (call :: later) ↔
      (call.2 = .ok () → call.1.tag = none → left = none) ∧
        Untainted (leftTag left call) later := by
  constructor
  · intro untainted
    refine ⟨untainted [] call later rfl, ?_⟩
    intro before other rest split
    exact untainted (call :: before) other rest (congrArg (call :: ·) split)
  · rintro ⟨first, rest⟩ before other others split
    cases before with
    | nil =>
        cases split
        exact first
    | cons head before =>
        cases split
        exact rest before other others rfl

theorem delivered_accepted (left : Option String) (history : History) :
    delivered left history = accepted history ↔ Untainted left history := by
  induction history generalizing left with
  | nil =>
      refine ⟨fun _ before call later split => ?_, fun _ => rfl⟩
      exact absurd split (List.append_ne_nil_of_right_ne_nil _ (List.cons_ne_nil _ _)).symm
  | cons call later ih =>
      rw [untainted_cons, ← ih]
      cases result : call.2 with
      | ok value =>
          have taken : accepted (call :: later) = call.1 :: accepted later := by
            rw [accepted, List.filterMap_cons_some (by rw [result])]
            rfl
          rw [delivered, result, taken, List.cons.injEq, Mail.retagged_eq]
          exact ⟨fun same => ⟨fun _ => same.1, same.2⟩, fun same => ⟨same.1 rfl, same.2⟩⟩
      | error error =>
          have passed : accepted (call :: later) = accepted later := by
            rw [accepted, List.filterMap_cons_none (by rw [result])]
            rfl
          rw [delivered, result, passed]
          exact ⟨fun same => ⟨nofun, same⟩, fun same => same.2⟩

variable {κ : Type} [Consumer κ]

def outcomes : κ → Option String → List Mail → List (Except Error Unit)
  | _, _, [] => []
  | consumer, left, mail :: mails =>
    let (result, next) := Consumer.consume consumer (mail.retagged left)
    result :: outcomes next (leftTag left (mail, result)) mails

/-- Every mail is clean for the consumer as it is when the mail is sent. -/
def CleanRun : κ → Option String → List Mail → Prop
  | _, _, [] => True
  | consumer, left, mail :: mails =>
    let (result, next) := Consumer.consume consumer (mail.retagged left)
    WireClean consumer mail ∧ CleanRun next (leftTag left (mail, result)) mails

theorem after_tag (desk : Desk κ) (mail : Mail) :
    (desk.after (mail.retagged desk.draft.tag)).draft.tag = leftTag desk.draft.tag
      (mail, (Consumer.consume desk.consumer (mail.retagged desk.draft.tag)).1) := by
  rw [Desk.after]
  cases (Consumer.consume desk.consumer (mail.retagged desk.draft.tag)).1 with
  | ok _ => rfl
  | error _ => rfl

theorem taken_delivered (desk : Desk (Journal κ)) (mail : Mail) (later : History) :
    (Consumer.consume desk.consumer (mail.retagged desk.draft.tag)).2.taken ++
        delivered (leftTag desk.draft.tag
          (mail, (Consumer.consume desk.consumer (mail.retagged desk.draft.tag)).1)) later =
      desk.consumer.taken ++ delivered desk.draft.tag ((mail,
        reported (Consumer.consume desk.consumer (mail.retagged desk.draft.tag)).1) :: later) := by
  cases result : (Consumer.consume desk.consumer (mail.retagged desk.draft.tag)).1 with
  | ok value =>
      rw [Journal.taken_ok desk.consumer result, List.append_assoc]
      rfl
  | error error =>
      rw [Journal.taken_error desk.consumer result]
      rfl

theorem Ready.send_all {start session : Session (Journal κ)} {lines : List String}
    {channel : Channel (Live (Session (Journal κ)))} {mails : List Mail}
    (ready : Ready start lines channel session)
    (clean : CleanRun session.desk.consumer.consumer session.desk.draft.tag mails) :
    ∃ submissions after next, Client.sendAll mails channel = (submissions, after) ∧
      submissions.map (·.result) =
        (outcomes session.desk.consumer.consumer session.desk.draft.tag mails).map reported ∧
      after.peer = ⟨next, [], (Wire.Session.sent next).length⟩ ∧
      next.desk.consumer.taken = session.desk.consumer.taken ++
        delivered session.desk.draft.tag (Client.history mails submissions) := by
  induction mails generalizing lines channel session with
  | nil =>
      refine ⟨[], channel, session, rfl, rfl, ready.quiet.peer, ?_⟩
      exact (List.append_nil _).symm
  | cons mail mails ih =>
      obtain ⟨clean_mail, clean_rest⟩ := clean
      obtain ⟨middle, between, refused, sent, _, ready_between, handed⟩ :=
        ready.send_mail clean_mail.toSendable.sound clean_mail.toSendable.reply_fits
      rw [clean_mail.arrives] at sent handed
      have left : between.desk.draft.tag = leftTag session.desk.draft.tag
          (mail, (Consumer.consume session.desk.consumer
            (mail.retagged session.desk.draft.tag)).1) := by
        rw [handed]
        exact after_tag session.desk mail
      have consumer : between.desk.consumer =
          (Consumer.consume session.desk.consumer (mail.retagged session.desk.draft.tag)).2 := by
        rw [handed]
        rfl
      obtain ⟨submissions, after, next, rest_sent, told, peer, taken⟩ :=
        ih ready_between (by rw [left, consumer]; exact clean_rest)
      rw [left, consumer] at told taken
      refine ⟨⟨reported (Consumer.consume session.desk.consumer
        (mail.retagged session.desk.draft.tag)).1, refused⟩ :: submissions, after, next, ?_, ?_,
        peer, ?_⟩
      · rw [Client.sendAll, sent]
        simp only [rest_sent]
      · rw [List.map_cons, told]
        rfl
      · rw [taken, taken_delivered]
        rfl

def Client.opened (label client_label : LogPrefix) (consumer : κ) :
    Channel (Live (Session (Journal κ))) :=
  (begin.run (Live.connect client_label (Session.observed label consumer))).2

/-- The mails of one session stay apart, except that a tag left by a mail which could not be
consumed goes to the next mail without one. -/
theorem consecutive_mails (label client_label : LogPrefix) (consumer : κ) (mails : List Mail)
    (clean : CleanRun consumer none mails) :
    ∃ submissions after,
      Client.begin.run (Live.connect client_label (Session.observed label consumer)) =
        (.ok (), Client.opened label client_label consumer) ∧
      Client.sendAll mails (Client.opened label client_label consumer) = (submissions, after) ∧
      submissions.map (·.result) = (outcomes consumer none mails).map reported ∧
      after.peer.session.desk.consumer.taken =
        delivered none (Client.history mails submissions) ∧
      (after.peer.session.desk.consumer.taken = accepted (Client.history mails submissions) ↔
        Untainted none (Client.history mails submissions)) := by
  obtain ⟨channel, session, began, ready, fresh⟩ :=
    begin_ready label client_label (⟨consumer, []⟩ : Journal κ)
  have same : Client.opened label client_label consumer = channel := congrArg Prod.snd began
  obtain ⟨submissions, after, next, sent, told, peer, taken⟩ :=
    ready.send_all (by rw [fresh]; exact clean)
  rw [fresh] at told taken
  have consumed : after.peer.session.desk.consumer.taken =
      delivered none (Client.history mails submissions) := by
    rw [peer]
    exact taken
  rw [same]
  refine ⟨submissions, after, began, sent, told, consumed, ?_⟩
  rw [consumed]
  exact delivered_accepted none _

def signed : Mail := ⟨"a@b.cd", ["c@d.ef"], "first", "one", some "AAAA"⟩

def unsigned : Mail := ⟨"a@b.cd", ["c@d.ef"], "second", "two", none⟩

theorem signed_clean (consumer : Reluctant) : WireClean consumer signed := by
  have reply_short : (Wire.lineBytes "ok 1").length ≤ Wire.maxLine := by decide
  refine ⟨⟨by decide, by decide, by decide, by decide, by decide, ?_, by decide, reply_short⟩,
    by decide, by decide⟩
  rintro text ⟨⟩
  exact ⟨"AAAA".toList, [], by decide, by decide, List.all_eq_true.mp (by decide), by simp⟩

theorem unsigned_clean (consumer : Reluctant) : WireClean consumer unsigned := by
  have reply_short : (Wire.lineBytes "ok 1").length ≤ Wire.maxLine := by decide
  exact ⟨⟨by decide, by decide, by decide, by decide, by decide, nofun, by decide, reply_short⟩,
    by decide, by decide⟩

/-- The first mail fails, and its tag comes with the second. -/
theorem consecutive_reluctant : ∃ submissions after,
    Client.sendAll [signed, unsigned]
        (Client.opened (.ofProtocol "DMTP") (.ofProtocol "DMTP") (Reluctant.mk 1)) =
      (submissions, after) ∧
    submissions.map (·.result) = [.error (.remote "consuming email"), .ok ()] ∧
    after.peer.session.desk.consumer.taken = [{ unsigned with tag := some "AAAA" }] ∧
    after.peer.session.desk.consumer.taken ≠
      accepted (Client.history [signed, unsigned] submissions) := by
  obtain ⟨submissions, after, _, sent, told, consumed, _⟩ :=
    consecutive_mails (.ofProtocol "DMTP") (.ofProtocol "DMTP") (Reluctant.mk 1) [signed, unsigned]
      ⟨signed_clean _, unsigned_clean _, trivial⟩
  have results : submissions.map (·.result) = [.error (.remote "consuming email"), .ok ()] := told
  have history : Client.history [signed, unsigned] submissions =
      [(signed, .error (.remote "consuming email")), (unsigned, .ok ())] := by
    rw [Client.history, results]
    rfl
  rw [history] at consumed
  refine ⟨submissions, after, sent, results, consumed, ?_⟩
  rw [consumed, history]
  intro same
  cases same

end MailExchange.Transfer
