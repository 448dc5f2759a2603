import SoakRig.Endpoint
import SoakRig.Json

/-!
# Failure policies

What each endpoint answers to an attempt. The answer is a function of the endpoint, the number of
the attempt within its cycle and the request; whoever counts the attempts is told when to start over.
-/

namespace SoakRig

/-- What an answer depends on besides the attempt. -/
structure Request where
  /-- The time of the request in milliseconds. -/
  now : Int
  symbol : Option String
deriving DecidableEq

namespace Request

/-- The symbol of a request that names none. -/
def defaultSymbol : String := "BTCUSDT"

/-- The request for a symbol; an empty one counts as none. -/
def withSymbol (r : Request) (symbol : Option String) : Request :=
  { r with symbol := symbol.filter (· ≠ "") }

/-- The symbol that the answer names. -/
def symbolName (r : Request) : String := r.symbol.getD defaultSymbol

end Request

/-- An answer. -/
structure Response where
  status : UInt16
  body : Json
  /-- The attempts of the endpoint are counted from the start again. -/
  resets : Bool

namespace Response

/-- The status stands for success. -/
def successStatus (status : UInt16) : Bool := 200 ≤ status && status < 300

def success (r : Response) : Bool := successStatus r.status

end Response

namespace Policy

/-- The code in the bodies of refused calls. -/
def refusalCode : Int := -1003

/-- The body of a refused call. -/
def refusal (reason : String) : Json :=
  .object [("code", .integer refusalCode), ("msg", .string reason)]

def timeBody (r : Request) : Json := .object [("serverTime", .integer r.now)]

def tickerBody (r : Request) : Json :=
  .object [("symbol", .string r.symbolName), ("price", .string "60000.00")]

def orderBody (r : Request) : Json :=
  .object [
    ("symbol", .string Request.defaultSymbol),
    ("orderId", .integer 1234567),
    ("clientOrderId", .string ""),
    ("transactTime", .integer r.now),
    ("price", .string "55000.00"),
    ("origQty", .string "0.1"),
    ("executedQty", .string "0.0"),
    ("status", .string "NEW")]

/-- The limits that an order has to keep. -/
def tradingFilters : List Json := [
  .object [
    ("filterType", .string "PRICE_FILTER"),
    ("minPrice", .string "0.01"),
    ("maxPrice", .string "100000.00"),
    ("tickSize", .string "0.01")],
  .object [
    ("filterType", .string "LOT_SIZE"),
    ("minQty", .string "0.0001"),
    ("maxQty", .string "100.00"),
    ("stepSize", .string "0.0001")],
  .object [
    ("filterType", .string "MIN_NOTIONAL"),
    ("minNotional", .string "10.00")],
  .object [
    ("filterType", .string "PERCENT_PRICE_BY_SIDE"),
    ("bidMultiplierUp", .string "1.2"),
    ("bidMultiplierDown", .string "0.8"),
    ("askMultiplierUp", .string "1.2"),
    ("askMultiplierDown", .string "0.8"),
    ("avgPriceMins", .integer 5)]]

def exchangeInfoBody (r : Request) : Json :=
  .object [("symbols", .array [.object [
    ("symbol", .string r.symbolName),
    ("status", .string "TRADING"),
    ("baseAsset", .string "BTC"),
    ("quoteAsset", .string "USDT"),
    ("filters", .array tradingFilters)]])]

/-- One line of the account. -/
def balance (asset free locked : String) : Json :=
  .object [("asset", .string asset), ("free", .string free), ("locked", .string locked)]

def accountBody : Json :=
  .object [("balances", .array [
    balance "BTC" "1.50000000" "0.00000000",
    balance "USDT" "10000.00000000" "500.00000000"])]

/-- The attempt completes a cycle of the given length. -/
def completes (cycle : Nat) (attempt : UInt32) : Bool := cycle ≤ attempt.toNat

/-- The server is busy until the attempt that completes the cycle. -/
def time (attempt : UInt32) (r : Request) : Response :=
  if completes 4 attempt then ⟨200, timeBody r, true⟩
  else ⟨503, .object [("msg", .string "Server Busy")], false⟩

/-- The price is quoted until the attempt that completes the cycle, which comes too often. -/
def ticker (attempt : UInt32) (r : Request) : Response :=
  if completes 4 attempt then ⟨429, refusal "Too many requests", true⟩
  else ⟨200, tickerBody r, false⟩

/-- The caller is banned until the attempt that completes the cycle. -/
def placeOrder (attempt : UInt32) (r : Request) : Response :=
  if completes 5 attempt then ⟨200, orderBody r, true⟩
  else ⟨418, refusal "IP Banned", false⟩

/-- The answer of an endpoint to an attempt. -/
def evaluate : Endpoint → UInt32 → Request → Response
  | .time, attempt, r => time attempt r
  | .exchangeInfo, _, r => ⟨200, exchangeInfoBody r, false⟩
  | .ticker, attempt, r => ticker attempt r
  | .account, _, _ => ⟨200, accountBody, false⟩
  | .placeOrder, attempt, r => placeOrder attempt r

end Policy

end SoakRig
