/-
  Pos/Floor.lean --- the server's checks, their lines, and the restaurant floor.

  Sources: `SamplePOS.Server/src/modules/orders/ordersRepository.ts`,
  `modules/restaurant/restaurantRepository.ts` and `shared/sql/503_pos_orders.sql`,
  `560_restaurant_foundation.sql`.

  A check is a row of `pos_orders`; its lines are the rows of `pos_order_items` with its id.
  A table points at one check, while any number of checks may name the table.  Ids are
  texts of UUIDs, timestamps whole numbers.  Rows that a query orders by equal timestamps
  come in the order of the table.
-/
import Mathlib.Data.List.Sort
import SmartErpPos.Lib.OrderedMap
import SmartErpPos.Lib.RoundedRat

set_option autoImplicit false

namespace SmartErpPos.Pos

open SmartErpPos.Lib

/-! ## Tables -/

inductive OrderStatus where
  | PENDING
  | COMPLETED
  | CANCELLED
  deriving DecidableEq

inductive OrderChannel where
  | RETAIL
  | DINE_IN
  | TAKEAWAY
  | DELIVERY
  deriving DecidableEq

inductive TableStatus where
  | FREE
  | OCCUPIED
  | BILLING
  deriving DecidableEq

/-- The text of a status. -/
def OrderStatus.text : OrderStatus → String
  | .PENDING => "PENDING"
  | .COMPLETED => "COMPLETED"
  | .CANCELLED => "CANCELLED"

/-- A row of `pos_orders`. -/
structure PosOrder where
  orderNumber : String
  status : OrderStatus
  tableId : Option String
  orderChannel : OrderChannel
  waiterId : Option String
  customerId : Option String
  idempotencyKey : Option String
  notes : Option String
  createdAt : ℤ
  deriving DecidableEq

/-- A row of `pos_order_items`. -/
structure OrderItem where
  orderId : String
  productId : Option String
  productName : String
  quantity : Numeric 4
  unitPrice : Numeric 2
  lineTotal : Numeric 2
  discountAmount : Numeric 2
  baseQty : Option (Numeric 4)
  conversionFactor : Option (Numeric 6)
  lineNotes : Option String
  addedAt : ℤ
  deriving DecidableEq

/-- A row of `restaurant_tables`. -/
structure RestaurantTable where
  code : String
  name : String
  zone : String
  isActive : Bool
  status : TableStatus
  currentOrderId : Option String
  deriving DecidableEq

/-- The columns of `sales` that tie a sale to its event and its check. -/
structure SaleRow where
  idempotencyKey : Option String
  fromOrderId : Option String
  deriving DecidableEq

/-- The tables, and the switch `restaurant_mode_enabled`. -/
structure PosState where
  restaurantMode : Bool
  tables : OrderedMap String RestaurantTable
  orders : OrderedMap String PosOrder
  items : OrderedMap String OrderItem
  sales : OrderedMap String SaleRow
  deriving DecidableEq

namespace PosState

variable (s : PosState)

/-! ## Queries -/

/-- A row with its id. -/
abbrev Row (V : Type) := String × V

/-- `status = 'PENDING' AND table_id = $1`. -/
def pendingOn (tableId : String) : List (Row PosOrder) :=
  s.orders.entries.filter fun row =>
    decide (row.2.status = .PENDING) && decide (row.2.tableId = some tableId)

/-- `ORDER BY created_at ASC`. -/
def oldestFirst (rows : List (Row PosOrder)) : List (Row PosOrder) :=
  rows.insertionSort fun a b => a.2.createdAt ≤ b.2.createdAt

/-- `ORDER BY created_at DESC`. -/
def newestFirst (rows : List (Row PosOrder)) : List (Row PosOrder) :=
  rows.insertionSort fun a b => b.2.createdAt ≤ a.2.createdAt

/-- The lines of a check. -/
def itemsOf (orderId : String) : List (Row OrderItem) :=
  s.items.entries.filter fun row => row.2.orderId = orderId

/-- `getById(..).items`, `ORDER BY added_at, product_name`. -/
def orderItems (orderId : String) : List (Row OrderItem) :=
  (s.itemsOf orderId).insertionSort fun a b =>
    a.2.addedAt < b.2.addedAt ∨ (a.2.addedAt = b.2.addedAt ∧ a.2.productName ≤ b.2.productName)

/-- The sale with an idempotency key. -/
def saleWithKey (key : String) : Option (Row SaleRow) :=
  s.sales.entries.find? fun row => row.2.idempotencyKey = some key

/-- Is the check open? -/
def isPending (orderId : String) : Bool :=
  (s.orders.get? orderId).any fun order => decide (order.status = .PENDING)

/-- The table that points at a check. -/
def tablePointingAt (orderId : String) : Option (Row RestaurantTable) :=
  s.tables.entries.find? fun row => row.2.currentOrderId = some orderId

/-! ## Writes -/

/-- `occupyTable`; `setTableCurrentOrder` is the same statement. -/
def occupyTable (tableId orderId : String) : PosState :=
  { s with tables := s.tables.modify tableId fun t =>
      { t with status := .OCCUPIED, currentOrderId := some orderId } }

/-- `releaseTable`. -/
def releaseTable (tableId : String) : PosState :=
  { s with tables := s.tables.modify tableId fun t =>
      { t with status := .FREE, currentOrderId := none } }

/-- The oldest other open check on a table that is not a retail order. -/
def siblingOn (tableId orderId : String) : Option (Row PosOrder) :=
  (oldestFirst ((s.pendingOn tableId).filter fun row =>
    decide (row.1 ≠ orderId) && decide (row.2.orderChannel ≠ .RETAIL))).head?

/-- The table `releaseTableByOrderId` works on: the one pointing at the check, or else the one
the check names. -/
def tableOfOrder (orderId : String) : Option String :=
  match s.tablePointingAt orderId with
  | some row => some row.1
  | none =>
    ((s.orders.get? orderId).bind (·.tableId)).filter fun tableId => (s.tables.get? tableId).isSome

/-- `releaseTableByOrderId`: the table goes to another open check on it, or becomes free. -/
def releaseTableByOrderId (orderId : String) : PosState :=
  match s.tableOfOrder orderId with
  | none => s
  | some tableId =>
    match s.siblingOn tableId orderId with
    | some sibling => s.occupyTable tableId sibling.1
    | none => s.releaseTable tableId

/-- `UPDATE pos_orders SET status = $2 .. WHERE id = $1 AND status = 'PENDING'`. -/
def closeOrder (orderId : String) (status : OrderStatus) : PosState :=
  { s with orders := s.orders.modify orderId fun order =>
      if order.status = .PENDING then { order with status := status } else order }

/-- `patchOrderRestaurantFields` with a table and a channel. -/
def placeOrder (orderId tableId : String) (channel : OrderChannel) : PosState :=
  { s with orders := s.orders.modify orderId fun order =>
      { order with tableId := some tableId, orderChannel := channel } }

/-- `moveOrderItems`. -/
def moveOrderItems (itemIds : List String) (toOrderId : String) : PosState :=
  { s with items := s.items.mapWithKey fun itemId item =>
      if itemId ∈ itemIds then { item with orderId := toOrderId } else item }

end PosState

/-- `ROUND(quantity * conversion_factor, 6)` in a column with four decimals. -/
def OrderItem.baseQtyFor (item : OrderItem) (quantity : ℚ) : Option (Numeric 4) :=
  match item.conversionFactor with
  | some factor =>
    if 0 < factor then some (Numeric.ofRat (roundTo 6 (quantity * factor.toRat))) else item.baseQty
  | none => item.baseQty

/-- The row `reduceOrderItemQuantity` leaves. -/
def OrderItem.reduced (item : OrderItem) (newQuantity discountAmount : ℚ) : OrderItem :=
  { item with
    quantity := Numeric.ofRat newQuantity
    discountAmount := Numeric.ofRat discountAmount
    lineTotal := Numeric.ofRat (newQuantity * item.unitPrice.toRat - discountAmount)
    baseQty := item.baseQtyFor newQuantity }

/-- The row `cloneOrderItemPartial` inserts. -/
def OrderItem.partialClone (item : OrderItem) (toOrderId : String) (moveQuantity : ℚ) (now : ℤ) :
    OrderItem :=
  let discount := item.discountAmount.toRat * (moveQuantity / item.quantity.toRat)
  { item with
    orderId := toOrderId
    quantity := Numeric.ofRat moveQuantity
    discountAmount := Numeric.ofRat discount
    lineTotal := Numeric.ofRat (moveQuantity * item.unitPrice.toRat - discount)
    baseQty := item.baseQtyFor moveQuantity
    addedAt := now }

namespace PosState

variable (s : PosState)

/-- `reduceOrderItemQuantity`. -/
def reduceOrderItemQuantity (orderId itemId : String) (newQuantity discountAmount : ℚ) : PosState :=
  { s with items := s.items.mapWithKey fun id item =>
      if id = itemId ∧ item.orderId = orderId then item.reduced newQuantity discountAmount
      else item }

end PosState

end SmartErpPos.Pos
