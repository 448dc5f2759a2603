/-!
# Endpoints of the mock exchange

The five endpoints with their names, paths and failure cycles.
-/

namespace SoakRig

/-- An endpoint of the mock exchange. -/
inductive Endpoint where
  | time
  | exchangeInfo
  | ticker
  | account
  | placeOrder
deriving DecidableEq

namespace Endpoint

/-- Every endpoint, in routing order. -/
def all : List Endpoint := [time, exchangeInfo, ticker, account, placeOrder]

/-- The name used in logs, snapshots and records. -/
def name : Endpoint → String
  | time => "time"
  | exchangeInfo => "exchange_info"
  | ticker => "ticker"
  | account => "account"
  | placeOrder => "place_order"

/-- The path that the endpoint is served on. -/
def path : Endpoint → String
  | time => "/api/v3/time"
  | exchangeInfo => "/api/v3/exchangeInfo"
  | ticker => "/api/v3/ticker/price"
  | account => "/api/v3/account"
  | placeOrder => "/api/v3/order"

/-- The length of the failure cycle; endpoints without one always succeed. -/
def cycle? : Endpoint → Option Nat
  | time => some 4
  | ticker => some 4
  | placeOrder => some 5
  | exchangeInfo => none
  | account => none

/-- Calls to the endpoint advance an attempt counter. -/
def scripted (e : Endpoint) : Bool := e.cycle?.isSome

end Endpoint

end SoakRig
