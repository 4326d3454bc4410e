import EvmIndexer.Text.Numeral
import EvmIndexer.Text.Percent

/-!
# Addresses of databases

An address names a driver, and perhaps a user with a password, a host with the
number of a socket there, a database, and options. It is read from left to right,
each part as far as it goes, and what is left over is ignored. A user ends at the
last at sign before the first colon or slash; after a colon, the first at sign
ends the password.

Writing an address shows every part in the one way that reads back, with the
options in order, and with three stars for the password where it must not be
seen.
-/

namespace EvmIndexer

structure DatabaseUrl where
  driver : String
  user : Option String := none
  password : Option String := none
  host : Option String := none
  /-- The number of the socket on the host. -/
  socket : Option Int := none
  database : Option String := none
  /-- The values of each option, in the order in which the options came. -/
  options : List (String × List String) := []
deriving DecidableEq, Repr

namespace DatabaseUrl

/-- Why a text is no address. -/
inductive Fault where
  | notAnAddress
  /-- The socket is not a number. -/
  | badSocket
  /-- There is a colon before the socket and nothing after it. -/
  | emptySocket
deriving DecidableEq, Repr

/-! ## Reading -/

/-- Reads the name of the driver and the mark after it. -/
def readDriver? (cs : List Char) : Option (List Char × List Char) :=
  let isDriver := fun c => Text.isWordChar c || c == '+'
  match cs.takeWhile isDriver, cs.dropWhile isDriver with
  | [], _ => none
  | driver, ':' :: '/' :: '/' :: rest => some (driver, rest)
  | _, _ => none

/-- Splits at the last place of a character. -/
def splitAtLast? (mark : Char) (cs : List Char) :
    Option (List Char × List Char) :=
  let reversed := cs.reverse
  match reversed.dropWhile (· != mark) with
  | _ :: before =>
    some (before.reverse, (reversed.takeWhile (· != mark)).reverse)
  | [] => none

def readUserAndPassword? (cs : List Char) :
    Option (List Char × List Char × List Char) :=
  let isUser := fun c => c != ':' && c != '/'
  match cs.dropWhile isUser with
  | ':' :: after =>
    match after.dropWhile (· != '@') with
    | '@' :: rest => some (cs.takeWhile isUser, after.takeWhile (· != '@'), rest)
    | _ => none
  | _ => none

/-- Reads a user without a password. -/
def readUser? (cs : List Char) : Option (List Char × List Char) :=
  let isUser := fun c => c != ':' && c != '/'
  (splitAtLast? '@' (cs.takeWhile isUser)).map fun (user, more) =>
    (user, more ++ cs.dropWhile isUser)

def readBracketed? : List Char → Option (List Char × List Char)
  | '[' :: rest =>
    let isInside := fun c => c != '/' && c != '?'
    match splitAtLast? ']' (rest.takeWhile isInside) with
    | some ([], _) | none => none
    | some (host, more) => some (host, more ++ rest.dropWhile isInside)
  | _ => none

/-- Reads a host, if there is one. -/
def readHost (cs : List Char) : Option (List Char) × List Char :=
  match readBracketed? cs with
  | some (host, rest) => (some host, rest)
  | none =>
    let isHost := fun c => c != '/' && c != ':' && c != '?'
    match cs.takeWhile isHost with
    | [] => (none, cs)
    | host => (some host, cs.dropWhile isHost)

/-- Reads a part that begins with a mark and goes on as long as its characters
do. -/
def readPart (mark : Char) (isInside : Char → Bool) :
    List Char → Option (List Char) × List Char
  | c :: rest =>
    if c == mark then (some (rest.takeWhile isInside), rest.dropWhile isInside)
    else (none, c :: rest)
  | [] => (none, [])

def splitOn (mark : Char) : List Char → List (List Char)
  | [] => [[]]
  | c :: rest =>
    match splitOn mark rest with
    | part :: parts => if c == mark then [] :: part :: parts else (c :: part) :: parts
    | [] => [[c]]

/-- Reads an option; one without a value does not count. -/
def readOption? (cs : List Char) : Option (String × String) :=
  match cs.dropWhile (· != '=') with
  | _ :: c :: value =>
    some (String.ofList (Text.Percent.decodeForm (cs.takeWhile (· != '='))),
      String.ofList (Text.Percent.decodeForm (c :: value)))
  | _ => none

def addOption (options : List (String × List String)) (new : String × String) :
    List (String × List String) :=
  if options.any (·.1 == new.1) then
    options.map fun (name, values) =>
      if name == new.1 then (name, values ++ [new.2]) else (name, values)
  else options ++ [(new.1, [new.2])]

def readOptions (cs : List Char) : List (String × List String) :=
  ((splitOn '&' cs).filterMap readOption?).foldl addOption []

def readSocket : Option (List Char) → Except Fault (Option Int)
  | none => .ok none
  | some [] => .error .emptySocket
  | some cs =>
    match Text.readInteger? (String.ofList cs) with
    | some socket => .ok (some socket)
    | none => .error .badSocket

def decoded (cs : List Char) : String := String.ofList (Text.Percent.decode cs)

/-- Reads a user, if there is one, and the user's password, if there is one. -/
def readLogin (cs : List Char) :
    Option (List Char) × Option (List Char) × List Char :=
  match readUserAndPassword? cs with
  | some (user, password, rest) => (some user, some password, rest)
  | none =>
    match readUser? cs with
    | some (user, rest) => (some user, none, rest)
    | none => (none, none, cs)

def parse (s : String) : Except Fault DatabaseUrl := do
  let (driver, cs) ← match readDriver? s.toList with
    | some found => .ok found
    | none => .error .notAnAddress
  let (user, password, cs) := readLogin cs
  let (host, cs) := readHost cs
  let (socket, cs) := readPart ':' (fun c => c != '/' && c != '?') cs
  let (database, cs) := readPart '/' (· != '?') cs
  let (options, _) := readPart '?' (· != '\n') cs
  return {
    driver := String.ofList driver
    user := user.map decoded
    password := password.map decoded
    host := host.map String.ofList
    socket := ← readSocket socket
    database := database.map decoded
    options := (options.map readOptions).getD [] }

/-! ## Writing -/

inductive Secrecy where
  | shown
  | hidden
deriving DecidableEq, Repr

def loginText (url : DatabaseUrl) (secrecy : Secrecy) : List Char :=
  let write := fun s : String => Text.Percent.encode [' ', '+'] s.toList
  match url.user with
  | none => []
  | some user =>
    let password := match url.password, secrecy with
      | none, _ => []
      | some _, .hidden => [':', '*', '*', '*']
      | some password, .shown => ':' :: write password
    write user ++ password ++ ['@']

def hostText : Option String → List Char
  | none => []
  | some host =>
    if host.toList.contains ':' then '[' :: host.toList ++ [']'] else host.toList

def socketText : Option Int → List Char
  | none => []
  | some socket => ':' :: (toString socket).toList

def databaseText : Option String → List Char
  | none => []
  | some database => '/' :: Text.Percent.encode [' ', '+', '/'] database.toList

def optionText (name value : String) : List Char :=
  Text.Percent.encodeForm name.toList ++ ['=']
    ++ Text.Percent.encodeForm value.toList

/-- The text of options, in the order of their names. -/
def optionsText (options : List (String × List String)) : List Char :=
  let sorted := options.mergeSort fun a b => !decide (b.1 < a.1)
  let parts := sorted.flatMap fun (name, values) => values.map (optionText name)
  if parts.isEmpty then [] else '?' :: ['&'].intercalate parts

def text (url : DatabaseUrl) (secrecy : Secrecy) : String :=
  String.ofList (url.driver.toList ++ [':', '/', '/'] ++ url.loginText secrecy
    ++ hostText url.host ++ socketText url.socket ++ databaseText url.database
    ++ optionsText url.options)

/-! ## The kind of database -/

/-- The driver's family: its name up to the first plus sign. -/
def family (url : DatabaseUrl) : String :=
  String.ofList (url.driver.toList.takeWhile (· != '+'))

/-- Gives an option another name; values that were there under the new name are
replaced. -/
def renameOption (old new : String) (url : DatabaseUrl) : DatabaseUrl :=
  match url.options.lookup old with
  | none => url
  | some values =>
    let kept := url.options.filter fun o => o.1 != old && o.1 != new
    { url with options := kept ++ [(new, values)] }

end DatabaseUrl

end EvmIndexer
