import MinimalRouter.Api.Routes
import Mathlib.Data.List.TakeWhile

namespace MinimalRouter.Api

open Goish Lib Lib.Utf8 Config Httpd

/-- What the gate asks for: the configuration in force, the session manager, and whether the preview
over plain HTTP is on. -/
structure Server where
  config : SystemConfig
  validate : String → Except String Auth.Session
  previewHttp : Bool := false

inductive Rejection
  | untrusted | unauthorized | readOnly | crossSite | origin | csrf
  deriving DecidableEq

namespace Rejection

def errorJson (status : Nat) (message : String) : Response :=
  .bytes status "application/json"
    ("\x7b\"error\":\"".toList ++ message.toList ++ "\"\x7d\n".toList)

def response : Rejection → Response
  | untrusted => errorJson 403 "Source address is not within a trusted management network"
  | unauthorized => errorJson 401 "Unauthorized or expired session"
  | readOnly => errorJson 403 "Read-only session cannot change router state"
  | crossSite => .error "Cross-site request rejected" 403
  | origin => .error "Origin rejected" 403
  | csrf => errorJson 403 "CSRF token mismatch"

end Rejection

def securityHeaderValues : List (String × String) := [
  ("Strict-Transport-Security", "max-age=63072000"),
  ("X-Content-Type-Options", "nosniff"),
  ("X-Frame-Options", "DENY"),
  ("Cross-Origin-Opener-Policy", "same-origin"),
  ("Cross-Origin-Resource-Policy", "same-origin"),
  ("Content-Security-Policy", "default-src 'none'; frame-ancestors 'none'; base-uri 'none'"),
  ("Referrer-Policy", "no-referrer"),
  ("Permissions-Policy", "camera=(), microphone=(), geolocation=()"),
  ("Cache-Control", "no-store")]

def securityHeaders (response : Response) : Response :=
  securityHeaderValues.foldl (fun response (name, value) =>
    if response.headers.has name then response else response.withHeader name value.toList) response

section Origin

variable (server : Server)

def hostname (authority : Text) : Text :=
  match (stripStart ['['] authority).bind (splitOnce ']') with
  | some (host, _) => host
  | none => ((rsplitOnce ':' authority).map (·.1)).getD authority

def Server.schemeAllowed (scheme authority : Text) : Bool :=
  scheme == "https".toList ||
    (scheme == "http".toList && server.previewHttp &&
      (parseIp (String.ofList (hostname authority))).any IP.isLoopback)

def isDelimiter (c : Char) : Bool := c == '/' || c == '?' || c == '#'

def Server.originAllowed (origin host : Text) : Bool :=
  match splitOnText "://".toList origin with
  | none => false
  | some (scheme, rest) =>
    let authority :=
      if rest.any isDelimiter && rest.getLast? != some '/' then rest.takeWhile (!isDelimiter ·)
      else (rest.reverse.dropWhile (· == '/')).reverse
    authority == host && server.schemeAllowed scheme authority

/-- An origin that names a host: after its scheme the host itself, and then at most a path, a query
or a fragment. -/
def Server.Names (origin host : Text) : Prop :=
  ∃ scheme rest, origin = scheme ++ "://".toList ++ host ++ rest ∧
    (∀ c ∈ rest.head?, isDelimiter c = true) ∧ server.schemeAllowed scheme host = true

theorem Server.names_of_originAllowed (h : server.originAllowed origin host = true) :
    server.Names origin host := by
  unfold originAllowed at h
  split at h
  · cases h
  next scheme rest hsplit =>
  obtain rfl := splitOnText_eq_some hsplit
  simp only [Bool.and_eq_true, beq_iff_eq] at h
  obtain ⟨hauthority, hscheme⟩ := h
  rw [hauthority] at hscheme
  split at hauthority
  · refine ⟨scheme, rest.dropWhile (!isDelimiter ·), ?_, fun c hc => ?_, hscheme⟩
    · rw [← hauthority, List.append_assoc _ _ (rest.dropWhile _), List.takeWhile_append_dropWhile]
    have hhead := List.head?_dropWhile_not (!isDelimiter ·) rest
    rw [Option.mem_def.mp hc] at hhead
    simpa using hhead
  refine ⟨scheme, (rest.reverse.takeWhile (· == '/')).reverse, ?_, fun c hc => ?_, hscheme⟩
  · rw [← hauthority, List.append_assoc _ _ (List.reverse _), ← List.reverse_append,
      List.takeWhile_append_dropWhile, List.reverse_reverse]
  have hmem := List.mem_reverse.mp (List.mem_of_head? hc)
  rw [eq_of_beq (List.mem_takeWhile_imp (p := (· == '/')) hmem)]
  rfl

end Origin

section Gate

variable (server : Server)

def isSafe (method : Text) : Bool :=
  method == "GET".toList || method == "HEAD".toList || method == "OPTIONS".toList

def sessionCookie (request : Request) : String :=
  String.ofList ((request.cookie "mr_session").getD [])

def Server.mutationRejection (session : Auth.Session) (request : Request) : Option Rejection :=
  let origin := request.headers.get "Origin"
  if session.readOnly && request.path != logoutPath then some .readOnly
  else if request.headers.get "Sec-Fetch-Site" == "cross-site".toList then some .crossSite
  else if !origin.isEmpty && !server.originAllowed origin request.host then some .origin
  else if request.headers.get "X-CSRF-Token" != session.csrfToken.toList then some .csrf
  else none

def Server.authenticate (request : Request) : Except Rejection Request :=
  match server.validate (sessionCookie request) with
  | .error _ => .error .unauthorized
  | .ok session =>
    match if isSafe request.method then none else server.mutationRejection session request with
    | some rejection => .error rejection
    | none => .ok { request with session := some session }

def Server.gate (request : Request) (authenticated : Bool) : Except Rejection Request :=
  if !server.config.isTrustedClientAddress request.remoteAddr then .error .untrusted
  else if authenticated then server.authenticate request
  else .ok request

variable {server}

theorem Server.mutationRejection_eq_none (h : server.mutationRejection session request = none) :
    (session.readOnly = true → request.path = logoutPath) ∧
      (request.headers.get "Origin" ≠ [] → server.Names (request.headers.get "Origin") request.host) ∧
      request.headers.get "X-CSRF-Token" = session.csrfToken.toList := by
  unfold mutationRejection at h
  dsimp only at h
  split at h
  · cases h
  next hreadOnly =>
  split at h
  · cases h
  split at h
  · cases h
  next horigin =>
  split at h
  · cases h
  next hcsrf =>
  refine ⟨fun hro => ?_, fun hpresent => ?_, by simpa using hcsrf⟩
  · simpa [hro] using hreadOnly
  · exact names_of_originAllowed server (by simpa [hpresent] using horigin)

theorem Server.gate_eq_ok (h : server.gate request true = .ok request') :
    server.config.isTrustedClientAddress request.remoteAddr = true ∧
      ∃ session, server.validate (sessionCookie request) = .ok session ∧
        (isSafe request.method = false → server.mutationRejection session request = none) := by
  unfold gate at h
  split at h
  · cases h
  next htrusted =>
  refine ⟨by simpa using htrusted, ?_⟩
  rw [if_pos rfl] at h
  unfold authenticate at h
  split at h
  · cases h
  next session hsession =>
  refine ⟨session, hsession, fun hsafe => ?_⟩
  rw [hsafe] at h
  split at h
  · cases h
  · next hnone => exact hnone

/-- What becomes of a request: a response that is settled here, the call of an endpoint behind the
gate, or that of the web interface. -/
inductive Answer
  | response : Response → Answer
  | ran : Endpoint → Bool → Request → Answer
  | files : Request → Answer

def Server.serve (web : Bool) (request : Request) : Answer :=
  match dispatch (routes web) request with
  | .response r => .response r
  | .handler .files request => .files request
  | .handler (.api endpoint authenticated) request =>
    match server.gate request authenticated with
    | .error rejection => .response (securityHeaders rejection.response)
    | .ok request => .ran endpoint authenticated request

theorem Server.serve_of_dispatch
    (hdispatch : dispatch (routes web) request = .handler (.api endpoint authenticated) routed)
    (hgate : server.gate routed authenticated = .ok request') :
    server.serve web request = .ran endpoint authenticated request' := by
  unfold serve
  rw [hdispatch]
  dsimp only
  rw [hgate]

theorem Server.serve_eq_ran (h : server.serve web request = .ran endpoint authenticated request') :
    ∃ params, dispatch (routes web) request =
        .handler (.api endpoint authenticated) { request with params } ∧
      server.gate { request with params } authenticated = .ok request' := by
  unfold serve at h
  split at h
  · cases h
  · cases h
  next endpoint' authenticated' routed hdispatch =>
  obtain ⟨-, -, params, -, -, rfl⟩ := dispatch_eq_handler hdispatch
  split at h
  · cases h
  · next hgate =>
    cases h
    exact ⟨params, hdispatch, hgate⟩

theorem endpoint_of_logoutPath (hpath : unescape request.rawPath false = some logoutPath)
    (h : dispatch (routes web) request = .handler (.api endpoint authenticated) request') :
    endpoint = .logout := by
  obtain ⟨r, hr, _, hhandler, hmatch, -⟩ := dispatch_eq_handler h
  have hmem : r ∈ routes true := by
    cases web with
    | true => exact hr
    | false => exact List.mem_append_left _ (by simpa [routes] using hr)
  have hascii : ∀ c ∈ logoutPath, isAscii c = true := List.all_eq_true.mp rfl
  rcases matches_logoutPath r hmem _ (segments_mem hpath hascii) _ (Option.isSome_of_mem hmatch) with
    hlogout | hfiles
  · cases hhandler.symm.trans hlogout
    rfl
  · cases hhandler.symm.trans hfiles

/-- The endpoint of a route that requires a session runs only for a caller from a trusted network
with a session; and for a change only with the token of the session, from the host itself if the
request says where it comes from, and not for a session that may only read, unless it ends it. -/
theorem protected_endpoint_runs {web : Bool} {remote localAddr : String} {head : Head}
    (hreceive : receive remote localAddr head = .ok request) :
    (∀ endpoint request', server.serve web request = .ran endpoint true request' →
      server.config.isTrustedClientAddress request.remoteAddr = true ∧
        ∃ session, server.validate (sessionCookie request) = .ok session ∧
          (isSafe request.method = false → (session.readOnly = true → endpoint = .logout) ∧
            (request.headers.get "Origin" ≠ [] →
              server.Names (request.headers.get "Origin") request.host) ∧
            request.headers.get "X-CSRF-Token" = session.csrfToken.toList)) ∧
      (request.path = logoutPath → ∀ endpoint authenticated request',
        dispatch (routes web) request = .handler (.api endpoint authenticated) request' →
          endpoint = .logout) := by
  obtain ⟨-, hpath, -⟩ := receive_eq_ok hreceive
  have hlogout : request.path = logoutPath → ∀ endpoint authenticated request',
      dispatch (routes web) request = .handler (.api endpoint authenticated) request' →
        endpoint = .logout := fun hlogout _ _ _ hdispatch =>
    endpoint_of_logoutPath (hlogout ▸ hpath) hdispatch
  refine ⟨fun endpoint request' hran => ?_, hlogout⟩
  obtain ⟨_, hdispatch, hgate⟩ := Server.serve_eq_ran hran
  obtain ⟨htrusted, session, hsession, hmutation⟩ := Server.gate_eq_ok hgate
  refine ⟨htrusted, session, hsession, fun hsafe => ?_⟩
  obtain ⟨hreadOnly, horigin, hcsrf⟩ := Server.mutationRejection_eq_none (hmutation hsafe)
  exact ⟨fun hro => hlogout (hreadOnly hro) _ _ _ hdispatch, horigin, hcsrf⟩

end Gate

def sampleTime : Time := ⟨0, 0, none⟩

def sampleSession : Auth.Session where
  id := "s"
  csrfToken := "t"
  readOnly := true
  authGeneration := 1
  createdAt := sampleTime
  lastSeen := sampleTime

def sampleServer : Server where
  config := defaultConfig sampleTime
  validate := fun cookie => if cookie = "s" then .ok sampleSession else .error "unknown"

def logoutRequest (origin : Text) : Request where
  method := "POST".toList
  path := logoutPath
  rawPath := logoutPath
  rawQuery := []
  proto := "HTTP/1.1".toList
  headers := ⟨[("Host".toList, "r".toList), ("Cookie".toList, "mr_session=s".toList),
    ("Origin".toList, origin), ("X-Csrf-Token".toList, "t".toList)]⟩
  host := "r".toList
  remoteAddr := "127.0.0.1:1"
  localAddr := "127.0.0.1:443"
  contentLength := 0

def logoutHead (origin : Text) : Head :=
  let r := logoutRequest origin
  ⟨r.method, logoutPath, r.proto, r.headers⟩

theorem pathMatches_logoutPath : (pathMatches (routes false) logoutPath).map
    (fun m => (m.1.handler, m.1.method, m.2)) = [(.api .logout true, some "POST".toList, [])] := by
  decide +kernel

theorem dispatch_logout {request : Request} (hpath : request.rawPath = logoutPath)
    (hmethod : request.method = "POST".toList) :
    dispatch (routes false) request = .handler (.api .logout true) { request with params := [] } := by
  obtain ⟨⟨r, params⟩, hfound, hfacts⟩ := List.map_eq_singleton_iff.mp pathMatches_logoutPath
  simp only [Prod.mk.injEq] at hfacts
  obtain ⟨hhandler, hpost, rfl⟩ := hfacts
  have hclean : cleaned logoutPath = logoutPath := by decide +kernel
  have hok : r.methodOk request.method = true := by
    rw [Route.methodOk, hpost, hmethod]
    decide
  rw [← hpath] at hfound hclean
  rw [dispatch_of_single hclean hfound hok, hhandler]

theorem serve_logoutRequest (origin : Text) (hgate : sampleServer.gate (logoutRequest origin) true =
      .ok { logoutRequest origin with session := some sampleSession }) :
    sampleServer.serve false (logoutRequest origin) =
      .ran .logout true { logoutRequest origin with session := some sampleSession } :=
  Server.serve_of_dispatch (dispatch_logout rfl rfl) hgate

theorem protected_endpoint_runs_at_logout :
    (∃ request', sampleServer.serve false (logoutRequest "https://r".toList) =
        .ran .logout true request') ∧
      ∃ session, sampleServer.validate (sessionCookie (logoutRequest "https://r".toList)) =
        .ok session ∧ sampleServer.Names "https://r".toList "r".toList := by
  have hreceive : receive "127.0.0.1:1" "127.0.0.1:443" (logoutHead "https://r".toList) =
      .ok (logoutRequest "https://r".toList) := by decide +kernel
  have hran := serve_logoutRequest "https://r".toList (by decide +kernel)
  obtain ⟨-, session, hsession, hmutation⟩ :=
    (@protected_endpoint_runs sampleServer _ false _ _ _ hreceive).1 _ _ hran
  have horigin := (hmutation (by decide)).2.1 (by decide)
  exact ⟨⟨_, hran⟩, session, hsession, horigin⟩

/-- An origin that is present but empty is not looked at. -/
theorem empty_origin_accepted :
    (∃ head, receive "127.0.0.1:1" "127.0.0.1:443" head = .ok (logoutRequest [])) ∧
      (∃ request', sampleServer.serve false (logoutRequest []) = .ran .logout true request') ∧
      isSafe (logoutRequest []).method = false ∧ (logoutRequest []).headers.has "Origin" = true ∧
      ∀ origin ∈ (logoutRequest []).headers.values "Origin",
        ¬ sampleServer.Names origin (logoutRequest []).host := by
  refine ⟨⟨logoutHead [], by decide +kernel⟩, ⟨_, serve_logoutRequest [] (by decide +kernel)⟩,
    by decide, by decide, fun origin horigin => ?_⟩
  obtain rfl : origin = [] := by
    have hvalues : (logoutRequest []).headers.values "Origin" = [[]] := by decide
    simpa [hvalues] using horigin
  rintro ⟨_, _, horigin, -⟩
  simp at horigin

end MinimalRouter.Api
