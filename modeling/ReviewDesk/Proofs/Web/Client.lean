import ReviewDesk.Proofs.Address.Path
import ReviewDesk.Proofs.Web.Visit
import ReviewDesk.Web.Client

/-!
# What sending does

A request that only asks to see something leaves the desk as it was, wherever it is
redirected to.  A request to a plain path is served there, and a response with headers in
ASCII arrives as it was sent.
-/

namespace ReviewDesk
namespace Web
namespace Client

open Address Text

variable {a : App} {w : Outside} {r : HttpRequest} {response : HttpResponse} {content : Content}

/-!
# Requests to plain paths
-/

def plainRequest (method path : String) (content : Content) : HttpRequest :=
  ⟨method, "http://testserver", path, "", contentHeaders [] content, content.bytes⟩

theorem request_of_isPlainPath {path : String} (h : IsPlainPath path.toList) (method : String)
    (content : Content) :
    request method path [] content = .ok (plainRequest (Text.upper method) path content) := by
  have haddress : addressOf path = .ok { home with path := path.toList } := by
    rw [addressOf, read_of_isPlainPath h]
    simp only [Except.bind]
    rw [below_of_isPlainPath (by decide) h]
    rfl
  have hpath : pathOf { home with path := path.toList } = path := by
    have hsome : path.toList.isEmpty = false := by
      rcases h.rooted with ⟨c, rest, hpath, _⟩
      rw [hpath]
      rfl
    have hpercent := not_mem_of_not_pathChar h.chars (by decide : '%' ∉ pathChars)
    simp [pathOf, hsome, decode_ascii (isAscii_of_pathChars h.chars) hpercent]
  have hhome : checkPlace home = .ok () ∧ originOf home [] = "http://testserver" := by
    decide +kernel
  have hplace : checkPlace { home with path := path.toList } = .ok () := hhome.left
  have horigin : originOf { home with path := path.toList } [] = "http://testserver" := hhome.right
  rw [request, haddress]
  simp only [bind, Except.bind, checkHeaders, hplace, hpath, horigin]
  rfl

theorem header?_plainRequest {name : String} (h : name ≠ "content-type") (method path : String)
    (content : Content) : header? (plainRequest method path content).headers name = none := by
  have hother : (lower "content-type" == name) = false := by
    have hlower : lower "content-type" = "content-type" := by decide
    simpa [hlower] using h.symm
  cases content with
  | none => rfl
  | json v => simp [plainRequest, contentHeaders, Content.isGiven, header?, hother]
  | text s => simp [plainRequest, contentHeaders, Content.isGiven, header?, hother]

/-!
# Paths of reviews
-/

theorem isPlainPath_reviews : IsPlainPath "/api/reviews".toList where
  chars := by decide
  rooted := ⟨'a', _, rfl, by decide⟩
  short := by decide

theorem ofPath_reviews : Route.ofPath "/api/reviews" = .found .reviews := by
  decide

theorem ofPath_reviewPath {id : String} (hne : id ≠ "") (hslash : '/' ∉ id.toList) :
    Route.ofPath (App.reviewPath id) = .found (.review id) := by
  have hchars : (App.reviewPath id).toList = Resource.collection ++ '/' :: id.toList :=
    App.reviewPath_chars id
  have hsome : id.toList ≠ [] := fun hnil => hne (String.toList_eq_nil_iff.mp hnil)
  have hrest : (App.reviewPath id).toList.drop (Resource.collection.length + 1) = id.toList := by
    have hlength : Resource.collection.length + 1 = (Resource.collection ++ ['/']).length := rfl
    rw [hchars, ← List.singleton_append, ← List.append_assoc, hlength, List.drop_left]
  have hstart : (Resource.collection ++ ['/']).isPrefixOf (App.reviewPath id).toList = true := by
    rw [hchars, List.isPrefixOf_iff_prefix]
    exact ⟨id.toList, by simp⟩
  have hbegins : ∃ rest, (App.reviewPath id).toList = '/' :: 'a' :: rest := ⟨_, hchars⟩
  rcases hbegins with ⟨rest, hbegin⟩
  have hhealth : "/health".toList = ['/', 'h', 'e', 'a', 'l', 't', 'h'] := rfl
  have hroot : Resource.isAt ['/'] (App.reviewPath id).toList = false := by
    simp [Resource.isAt, hbegin]
  have halive : Resource.isAt "/health".toList (App.reviewPath id).toList = false := by
    simp [Resource.isAt, hbegin, hhealth]
  have hwhole : Resource.isAt Resource.collection (App.reviewPath id).toList = false := by
    generalize hfixed : Resource.collection = fixed at hchars
    simp [Resource.isAt, hchars]
  have hresource : Resource.ofChars? (App.reviewPath id).toList = some (.review id) := by
    rw [Resource.ofChars?, hroot, halive, hwhole, hstart, hrest]
    simp [hsome, hslash]
  rw [Route.ofPath]
  simp only [hresource]

/-!
# Responses
-/

def plainHeaders (tag : String) : Headers :=
  [("vary", "Origin"), ("x-request-id", tag)]

theorem received_of_isAscii {value : String} (h : IsAscii value.toList) :
    received value = .ok value := by
  have hbytes : value.toList.map byteOf = value.toList.map Char.toNat := rfl
  simp only [received, hbytes, brokenBytes?_ascii h, utf8Lenient_ascii h]

theorem checkReceived_of_isAscii {headers : Headers} (h : ∀ q ∈ headers, IsAscii q.2.toList) :
    checkReceived headers = .ok () := by
  induction headers with
  | nil => rfl
  | cons first rest ih =>
      rcases List.forall_mem_cons.mp h with ⟨hfirst, hrest⟩
      have hascii : checkAscii first.2 = .ok () := by
        rw [checkAscii, misfit?_of_fits hfirst]
      rw [checkReceived, received_of_isAscii hfirst]
      simp only [bind, Except.bind, hascii, ih hrest]

theorem receive_of_isAscii (h : ∀ q ∈ response.headers, IsAscii q.2.toList) :
    receive response = .ok response := by
  rw [receive, checkReceived_of_isAscii h]
  rfl

theorem receive_eq_ok {arrived : HttpResponse} (h : receive response = .ok arrived) :
    arrived = response := by
  rcases bind_eq_ok_iff.mp h with ⟨_, _, hsame⟩
  cases hsame
  rfl

/-- What becomes of the result of serving a request on its way back. -/
def arrive (tag : String) (result : Except Fault HttpResponse) : Except Failure HttpResponse := do
  receive ((← result.mapError .broken).withHeaders (plainHeaders tag))

theorem arrive_eq_ok {tag : String} {result : Except Fault HttpResponse} {arrived : HttpResponse}
    (h : arrive tag result = .ok arrived) :
    ∃ sent, result = .ok sent ∧ arrived = sent.withHeaders (plainHeaders tag) := by
  cases result with
  | error fault => cases h
  | ok sent => exact ⟨sent, rfl, receive_eq_ok h⟩

theorem arrive_of_isAscii {tag : String} (htag : IsAscii tag.toList)
    (h : ∀ q ∈ response.headers, IsAscii q.2.toList) :
    arrive tag (.ok response) = .ok (response.withHeaders (plainHeaders tag)) := by
  apply receive_of_isAscii
  intro q hq
  rcases List.mem_append.mp hq with hown | hadded
  · exact h q hown
  · have hfixed : IsAscii "Origin".toList := by decide
    rcases List.mem_cons.mp hadded with rfl | hlast
    · exact hfixed
    · rw [List.mem_singleton.mp hlast]
      exact htag

/-!
# Serving
-/

theorem exchange_of_calls {method path : String} {resource : Resource}
    (hcalls : (plainRequest method path content).Calls method resource)
    (hoptions : method ≠ "OPTIONS") (hhead : method ≠ "HEAD") (a : App) (w : Outside) :
    let served := ({ a with tagged := a.tagged + 1 } : App).serve w
      (plainRequest method path content) resource
    exchange a w (plainRequest method path content) =
      ⟨served.app, served.requests, arrive (w.tag (a.tagged + 1)) served.result⟩ := by
  have htag : a.tag w (plainRequest method path content) =
      ({ a with tagged := a.tagged + 1 }, w.tag (a.tagged + 1)) := by
    simp [App.tag, App.ownTag?, header?_plainRequest]
  have hordinary (origins : List String) :
      Origin.ordinary origins (plainRequest method path content).headers =
        [("vary", "Origin")] := by
    simp [Origin.ordinary, header?_plainRequest]
  rw [exchange, App.handle_of_calls hcalls hoptions hhead, htag]
  simp only [hordinary]
  cases (({ a with tagged := a.tagged + 1 } : App).serve w (plainRequest method path content)
      resource).result with
  | error fault => rfl
  | ok response => rfl

/-!
# Redirections
-/

theorem follow_of_direct {sent : Sent}
    (h : ∀ response, sent.result = .ok response → response.status ≠ 307) (w : Outside)
    (r : HttpRequest) (fuel : Nat) : follow w r fuel sent = sent := by
  cases fuel with
  | zero => rfl
  | succ fuel =>
      unfold follow
      cases hresult : sent.result with
      | error failure => rfl
      | ok response => simp [location?, h response hresult]

def IsDirect (result : Except Fault HttpResponse) : Prop :=
  ∀ response, result = .ok response → response.status ≠ 307

theorem isDirect_ok (h : response.status ≠ 307) : IsDirect (.ok response) := by
  intro other hother
  cases hother
  exact h

theorem send_of_served {method path : String} {resource : Resource}
    (hpath : IsPlainPath path.toList) (hroute : Route.ofPath path = .found resource)
    (hupper : Text.upper method = method) (hoptions : method ≠ "OPTIONS") (hhead : method ≠ "HEAD")
    {served : App.Handled HttpResponse}
    (hserved : ({ a with tagged := a.tagged + 1 } : App).serve w (plainRequest method path content)
      resource = served)
    (hdirect : IsDirect served.result) :
    send a w method path content =
      ⟨served.app, served.requests, arrive (w.tag (a.tagged + 1)) served.result⟩ := by
  have hcalls : (plainRequest method path content).Calls method resource := ⟨rfl, hroute⟩
  have hexchange := exchange_of_calls hcalls hoptions hhead a w
  rw [hserved] at hexchange
  rw [send, request_of_isPlainPath hpath, hupper]
  simp only [hexchange]
  apply follow_of_direct
  intro response hresponse
  rcases arrive_eq_ok hresponse with ⟨sent, hsent, rfl⟩
  exact hdirect sent hsent

/-!
# Requests that only look
-/

structure Spares (a : App) (sent : Sent) : Prop where
  desk : sent.app.desk = a.desk
  requests : sent.requests = []

theorem exchange_spares (h : r.method = "GET") (a : App) (w : Outside) :
    Spares a (exchange a w r) := by
  have hpost : ¬ r.Calls "POST" .reviews := by
    intro hcalls
    rw [HttpRequest.Calls, h] at hcalls
    exact absurd hcalls.left (by decide)
  have hdelete : ∀ id, ¬ r.Calls "DELETE" (.review id) := by
    intro id hcalls
    rw [HttpRequest.Calls, h] at hcalls
    exact absurd hcalls.left (by decide)
  rcases App.handle_of_other hpost hdelete a w with ⟨hdesk, _, hrequests⟩
  exact ⟨hdesk, hrequests⟩

theorem follow_spares (h : r.method = "GET") (fuel : Nat) {sent : Sent} (hsent : Spares a sent) :
    Spares a (follow w r fuel sent) := by
  induction fuel generalizing sent with
  | zero => exact hsent
  | succ fuel ih =>
      unfold follow
      split
      · exact hsent
      · split
        · exact hsent
        · split
          · exact ⟨hsent.desk, hsent.requests⟩
          · rename_i target _
            have hagain := exchange_spares
              (r := { r with path := pathOf target, query := queryOf target }) h sent.app w
            generalize exchange sent.app w _ = again at hagain ⊢
            apply ih
            constructor
            case desk => exact hagain.desk.trans hsent.desk
            case requests =>
              show sent.requests ++ again.requests = []
              rw [hsent.requests, hagain.requests, List.append_nil]

theorem method_of_request {method address : String}
    (h : request method address [] content = .ok r) : r.method = Text.upper method := by
  rcases bind_eq_ok_iff.mp h with ⟨target, _, hrest⟩
  rcases bind_eq_ok_iff.mp hrest with ⟨_, _, hrest⟩
  rcases bind_eq_ok_iff.mp hrest with ⟨_, _, hmade⟩
  cases hmade
  rfl

theorem send_spares (a : App) (w : Outside) (address : String) (content : Content) :
    Spares a (send a w "GET" address content) := by
  unfold send
  cases hrequest : request "GET" address [] content with
  | error failure => exact ⟨rfl, rfl⟩
  | ok r =>
      have hmethod : r.method = "GET" :=
        (method_of_request hrequest).trans (by decide : Text.upper "GET" = "GET")
      exact follow_spares hmethod maxRedirections (exchange_spares hmethod a w)

end Client
end Web
end ReviewDesk
