/-!
# Status codes

The classes of the status codes of responses and the phrases that go with the codes.
-/

namespace UrlSigning.Http

/-- The class of a status code, by its hundreds. -/
inductive StatusClass where
  | informational
  | success
  | redirect
  | clientError
  | serverError
  | invalid
deriving DecidableEq, Repr

def StatusClass.ofCode (code : Int) : StatusClass :=
  match code / 100 with
  | 1 => .informational
  | 2 => .success
  | 3 => .redirect
  | 4 => .clientError
  | 5 => .serverError
  | _ => .invalid

/-- The words for a class, as messages begin with them. -/
def StatusClass.label : StatusClass → String
  | .informational => "Informational response"
  | .success => "Success"
  | .redirect => "Redirect response"
  | .clientError => "Client error"
  | .serverError => "Server error"
  | .invalid => "Invalid status code"

/-- The codes with a phrase. -/
def reasonPhrases : List (Int × String) :=
  [(100, "Continue"), (101, "Switching Protocols"), (102, "Processing"), (103, "Early Hints"),
    (200, "OK"), (201, "Created"), (202, "Accepted"), (203, "Non-Authoritative Information"),
    (204, "No Content"), (205, "Reset Content"), (206, "Partial Content"), (207, "Multi-Status"),
    (208, "Already Reported"), (226, "IM Used"), (300, "Multiple Choices"),
    (301, "Moved Permanently"), (302, "Found"), (303, "See Other"), (304, "Not Modified"),
    (305, "Use Proxy"), (307, "Temporary Redirect"), (308, "Permanent Redirect"),
    (400, "Bad Request"), (401, "Unauthorized"), (402, "Payment Required"), (403, "Forbidden"),
    (404, "Not Found"), (405, "Method Not Allowed"), (406, "Not Acceptable"),
    (407, "Proxy Authentication Required"), (408, "Request Timeout"), (409, "Conflict"),
    (410, "Gone"), (411, "Length Required"), (412, "Precondition Failed"),
    (413, "Request Entity Too Large"), (414, "Request-URI Too Long"),
    (415, "Unsupported Media Type"), (416, "Requested Range Not Satisfiable"),
    (417, "Expectation Failed"), (418, "I'm a teapot"), (421, "Misdirected Request"),
    (422, "Unprocessable Entity"), (423, "Locked"), (424, "Failed Dependency"),
    (425, "Too Early"), (426, "Upgrade Required"), (428, "Precondition Required"),
    (429, "Too Many Requests"), (431, "Request Header Fields Too Large"),
    (451, "Unavailable For Legal Reasons"), (500, "Internal Server Error"),
    (501, "Not Implemented"), (502, "Bad Gateway"), (503, "Service Unavailable"),
    (504, "Gateway Timeout"), (505, "HTTP Version Not Supported"),
    (506, "Variant Also Negotiates"), (507, "Insufficient Storage"), (508, "Loop Detected"),
    (510, "Not Extended"), (511, "Network Authentication Required")]

/-- The phrase of a code; codes without one have the empty phrase. -/
def reasonPhrase (code : Int) : String :=
  (reasonPhrases.lookup code).getD ""

/-- The codes of a redirection that names another place. -/
def redirectCodes : List Int := [301, 302, 303, 307, 308]

end UrlSigning.Http
