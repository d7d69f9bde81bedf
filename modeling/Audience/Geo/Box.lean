/-!
# Boxes around a point

A radius around a point is turned into a box of latitudes and longitudes, with a fixed
number of miles to a degree.  A degree of longitude shrinks with the cosine of the
latitude, so near the poles a box spans all longitudes and is of no use.
-/

namespace Audience
namespace Geo

structure Coordinates where
  lat : Float
  lon : Float
  deriving Repr

structure Box where
  latMin : Float
  latMax : Float
  lonMin : Float
  lonMax : Float
  deriving Repr

def milesPerDegree : Float := 69.0

/-- The number of radians in a degree, from the double nearest to pi. -/
def radiansPerDegree : Float := Float.ofBits 0x400921FB54442D18 / 180.0

/-- The box that extends a distance to each side of a point. -/
def Box.around (center : Coordinates) (miles : Float) : Box :=
  let lonDelta := miles / (Float.cos (center.lat * radiansPerDegree) * milesPerDegree).abs
  let latDelta := miles / milesPerDegree
  { latMin := center.lat - latDelta
    latMax := center.lat + latDelta
    lonMin := center.lon - lonDelta
    lonMax := center.lon + lonDelta }

/-- A point lies in a box or on its edge. -/
def Box.contains (box : Box) (point : Coordinates) : Bool :=
  box.latMin <= point.lat && point.lat <= box.latMax &&
    box.lonMin <= point.lon && point.lon <= box.lonMax

theorem Box.contains_iff {box : Box} {point : Coordinates} :
    box.contains point = true <->
      (box.latMin <= point.lat ∧ point.lat <= box.latMax) ∧
        box.lonMin <= point.lon ∧ point.lon <= box.lonMax := by
  simp [contains, and_assoc]

/-- The latitudes around a point reach as far everywhere, the longitudes further the smaller the
cosine of its latitude is. -/
theorem Box.contains_around_iff {center point : Coordinates} {miles : Float} :
    (around center miles).contains point = true <->
      (center.lat - miles / milesPerDegree <= point.lat ∧
        point.lat <= center.lat + miles / milesPerDegree) ∧
      center.lon - miles / (Float.cos (center.lat * radiansPerDegree) * milesPerDegree).abs <=
          point.lon ∧
        point.lon <=
          center.lon + miles / (Float.cos (center.lat * radiansPerDegree) * milesPerDegree).abs :=
  contains_iff

/-- A bound is not finite, or the longitudes go all the way round. -/
def Box.isDegenerate (box : Box) : Bool :=
  !(box.latMin.isFinite && box.latMax.isFinite && box.lonMin.isFinite && box.lonMax.isFinite) ||
    360.0 <= box.lonMax - box.lonMin

end Geo
end Audience
