import DroneFleet.Http.Service
import DroneFleet.Journal.Filter

/-!
# Requests and responses in lines

A request stands in one line: its method, its target, and its body, which is JSON.

* `Console.request?`   the request of a line
* `Console.response`   a response in one line
* `Console.remarks`    the remarks that are shown
-/

namespace DroneFleet.Console

def word (s : List Char) : List Char × List Char :=
  (s.takeWhile (· ≠ ' '), (s.dropWhile (· ≠ ' ')).drop 1)

/-- the request of a line; none if it has no target -/
def request? (line : String) : Option Http.Request :=
  let (method, r) := word (Text.trim line.toList)
  let (target, body) := word r
  if target = [] then none
  else
    some
      { method := String.ofList method
        target := String.ofList target
        headers := if body = [] then [] else [("content-type", "application/json")]
        body := (String.ofList body).toUTF8 }

def bodyText : Http.Body → String
  | .none => ""
  | .json v => v.compress
  | .text s => s

def response (r : Http.Response) : String :=
  (naturalString r.status ++ " " ++ bodyText r.body)

def remarks (f : Filter) (rs : List Remark) : List String :=
  (f.shown rs).map fun r => r.level.name ++ " " ++ r.source ++ ": " ++ r.text

end DroneFleet.Console
