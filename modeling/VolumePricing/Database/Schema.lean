import VolumePricing.Database.Conversation

/-!
# Setting up a database

The tables of the shop come in two steps, each carried out as a whole or not at
all. The first one brings the tiers of a new shop with it.
-/

namespace VolumePricing.Database

def tierSchema : String :=
  "CREATE TABLE IF NOT EXISTS price_tiers (
    id SERIAL PRIMARY KEY,
    name TEXT NOT NULL,
    display_name TEXT NOT NULL,
    formula_type VARCHAR(20) NOT NULL,
    multiplier DOUBLE PRECISION NOT NULL DEFAULT 1.0,
    percentage DOUBLE PRECISION NOT NULL DEFAULT 0.0,
    flat_amount DOUBLE PRECISION NOT NULL DEFAULT 0.0,
    min_quantity BIGINT NOT NULL DEFAULT 0,
    order_index INTEGER NOT NULL,
    active BOOLEAN NOT NULL DEFAULT TRUE,
    description TEXT NOT NULL DEFAULT '',
    is_default BOOLEAN NOT NULL DEFAULT FALSE,
    show_in_public BOOLEAN NOT NULL DEFAULT TRUE,
    color_code VARCHAR(7) NOT NULL DEFAULT '',
    created_at TIMESTAMPTZ NOT NULL DEFAULT NOW(),
    updated_at TIMESTAMPTZ NOT NULL DEFAULT NOW(),
    deleted_at TIMESTAMPTZ
);

CREATE INDEX IF NOT EXISTS idx_price_tiers_order ON price_tiers (order_index) WHERE deleted_at IS NULL;

INSERT INTO price_tiers (name, display_name, formula_type, multiplier, min_quantity, order_index, is_default, description, color_code)
VALUES
    ('wholesale', 'Wholesale', 'multiplier', 2.5, 0, 3, TRUE, 'Base price for any quantity', '#6b7280'),
    ('discount1', 'Wholesale 6+', 'multiplier', 2.25, 6, 2, FALSE, 'Six or more items in the cart', '#2563eb'),
    ('discount2', 'Wholesale 12+', 'multiplier', 1.75, 12, 1, FALSE, 'Twelve or more items in the cart', '#16a34a');
"

def cartSchema : String :=
  "CREATE TABLE IF NOT EXISTS products (
    id SERIAL PRIMARY KEY,
    name TEXT NOT NULL,
    cost_price DOUBLE PRECISION NOT NULL DEFAULT 0.0,
    wholesale_price DOUBLE PRECISION NOT NULL DEFAULT 0.0,
    discount1_price DOUBLE PRECISION NOT NULL DEFAULT 0.0,
    discount2_price DOUBLE PRECISION NOT NULL DEFAULT 0.0,
    image_url TEXT NOT NULL DEFAULT '',
    deleted_at TIMESTAMPTZ
);

CREATE TABLE IF NOT EXISTS carts (
    id SERIAL PRIMARY KEY,
    user_id TEXT NOT NULL UNIQUE,
    created_at TIMESTAMPTZ NOT NULL DEFAULT NOW()
);

CREATE TABLE IF NOT EXISTS cart_items (
    id SERIAL PRIMARY KEY,
    cart_id INTEGER NOT NULL REFERENCES carts (id) ON DELETE CASCADE,
    product_id INTEGER NOT NULL REFERENCES products (id),
    variant_name TEXT NOT NULL DEFAULT '',
    quantity BIGINT NOT NULL,
    UNIQUE (cart_id, product_id)
);
"

/-- The steps that set up an empty database. -/
def migrations : List String := [tierSchema, cartSchema]

def setUp : Talk Unit := do
  for step in migrations do
    transaction (script step)

def migrate : StoreAction Conversation Unit := setUp.run

end VolumePricing.Database
