import DistanceField.Decimal.Fixed
import DistanceField.Shader.Emit

/-!
# Shader sources

A generated function `map` stands behind a fixed library of helper functions. The fragment shader
draws the field over a grid.
-/

namespace DistanceField.Shader

/-- The helper functions in shader code. -/
def preamble : String := "
precision highp float;

float sdCircle( vec2 p, float r ) \x7b
    return length(p) - r;
\x7d

float sdBox( in vec2 p, in vec2 b ) \x7b
    vec2 d = abs(p)-b;
    return length(max(d,0.0)) + min(max(d.x,d.y),0.0);
\x7d

float sdCapsule( vec2 p, float h, float r ) \x7b
    p.y -= clamp( p.y, -h*0.5, h*0.5 );
    return length( p ) - r;
\x7d

float opSmoothUnion( float d1, float d2, float k ) \x7b
    float h = clamp( 0.5 + 0.5*(d2-d1)/max(k,0.0001), 0.0, 1.0 );
    return mix( d2, d1, h ) - k*h*(1.0-h);
\x7d

float opSmoothSubtraction( float d1, float d2, float k ) \x7b
    float h = clamp( 0.5 - 0.5*(d2+d1)/max(k,0.0001), 0.0, 1.0 );
    return mix( d2, -d1, h ) + k*h*(1.0-h);
\x7d

float opSmoothIntersection( float d1, float d2, float k ) \x7b
    float h = clamp( 0.5 - 0.5*(d2-d1)/max(k,0.0001), 0.0, 1.0 );
    return mix( d2, d1, h ) + k*h*(1.0-h);
\x7d

float opXor(float d1, float d2) \x7b
    return max(min(d1, d2), -max(d1, d2));
\x7d

vec2 rotate(vec2 p, float a) \x7b
    float s = sin(a);
    float c = cos(a);
    return mat2(c, -s, s, c) * p;
\x7d

vec2 opRepeat(vec2 p, vec2 period) \x7b
    return mod(p + 0.5*period, period) - 0.5*period;
\x7d

vec2 opMirror(vec2 p, float offset, bool isX) \x7b
    if(isX) p.x = abs(p.x - offset);
    else p.y = abs(p.y - offset);
    return p;
\x7d

vec2 opBend(vec2 p, float k, bool isX) \x7b
    float c = cos(k*(isX ? p.x : p.y));
    float s = sin(k*(isX ? p.x : p.y));
    mat2 m = mat2(c,-s,s,c);
    return m*p;
\x7d

vec2 opTwist(vec2 p, float k) \x7b
    float a = k*length(p);
    float s = sin(a);
    float c = cos(a);
    return mat2(c,-s,s,c)*p;
\x7d
"

/-- The declarations in front of a fragment shader. -/
def fragmentHead : String := "varying vec2 vWorldPos;
uniform vec2 uResolution;
uniform float uTime;
uniform int uDebugMode;

"

/-- The main function of a fragment shader. -/
def fragmentTail : String := "

float grid(vec2 uv, float scale) \x7b
    vec2 grid = abs(fract(uv * scale - 0.5) - 0.5) / scale;
    return 1.0 - smoothstep(0.0, 1.0 * length(fwidth(uv)), min(grid.x, grid.y));
\x7d

void main() \x7b
    vec2 p = vWorldPos;
    float d = map(p);

    vec3 baseColor = vec3(0.02, 0.03, 0.05);
    vec3 gridColor = vec3(0.1) * grid(p, 5.0) + vec3(0.05) * grid(p, 1.0);
    vec3 col = baseColor + gridColor;

    if (uDebugMode == 0) \x7b
        col = mix(col, vec3(0.1, 0.4, 0.8), (1.0 - smoothstep(0.0, 0.02, d)) * 0.5);
        col = mix(col, vec3(1.0), 1.0 - smoothstep(0.0, 1.5 * length(fwidth(p)), abs(d)));
    \x7d else \x7b
        col = vec3(0.5 + 0.5 * sin(d * 20.0 - uTime * 2.0));
        col *= exp(-abs(d) * 0.5);
        col = mix(col, vec3(1.0, 0.0, 0.0), 1.0 - smoothstep(0.0, 0.02, abs(d)));
    \x7d

    gl_FragColor = vec4(col, 1.0);
\x7d
"

instance : FixedText Float32 := ⟨Decimal.fixed⟩

namespace Program

variable {α : Type} [FixedText α]

/-- The helper functions and the function `map`. -/
def source (p : Program α) : String :=
  preamble ++ "\n" ++ p.mapFunction

/-- A fragment shader that draws the field. -/
def fragmentShader (p : Program α) : String :=
  fragmentHead ++ p.source ++ fragmentTail

end Program

end DistanceField.Shader
